import MutationTesting.Proofs.Recording.TreeWalks

/-! What a test reaches below the node where it starts: the nodes to which a path of bounded length
leads on which nothing is skipped, level by level and each of them once. The order and the members
leave no choice, so that a smaller bound only leaves out what is too far away.
-/

namespace MutationTesting.CallTree

variable {tree : CallTree}

-----------------------------------------------------------------------------------------
-- Paths on which nothing is skipped
-----------------------------------------------------------------------------------------

/-- A path leads from a node through functions only, its two ends included, and none of them is to
be skipped.
-/
def Unhidden (tree : CallTree) (skip : String → Bool) (start : Nat) (path : List Nat) : Prop :=
  ∀ front,
    front <+: path
    → ∃ node function,
        tree.follow? start front = some node
        ∧ tree.function? node = some function
        ∧ skip function = false

theorem visible?_isSome_iff {skip : String → Bool} {node : Nat}
    : (tree.visible? skip node).isSome
      ↔ ∃ function, tree.function? node = some function ∧ skip function = false := by
  simp [visible?, Option.any_eq_true]

theorem unhidden_nil {skip : String → Bool} {start : Nat}
    : tree.Unhidden skip start [] ↔ (tree.visible? skip start).isSome := by
  simp [Unhidden, follow?, visible?_isSome_iff]

/-- A longer path shows what the shorter one shows, and the node to which it leads. -/
theorem unhidden_concat {skip : String → Bool} {start node position : Nat} {path : List Nat}
    (leads : tree.follow? start (path ++ [position]) = some node)
    : tree.Unhidden skip start (path ++ [position])
      ↔ tree.Unhidden skip start path ∧ (tree.visible? skip node).isSome := by
  rw [visible?_isSome_iff]
  constructor
  · intro shown
    refine ⟨fun front before => shown front (before.trans (List.prefix_append _ _)), ?_⟩
    obtain ⟨last, function, there, named, kept⟩ := shown _ List.prefix_rfl
    obtain rfl : last = node := Option.some.inj (there.symm.trans leads)
    exact ⟨function, named, kept⟩
  · rintro ⟨shown, function, named, kept⟩ front before
    rcases List.prefix_concat_iff.mp before with rfl | shorter
    · exact ⟨node, function, leads, named, kept⟩
    · exact shown front shorter

/-- Whatever is at the end of such a path is not skipped. -/
theorem Unhidden.visible {skip : String → Bool} {start node : Nat} {path : List Nat}
    (shown : tree.Unhidden skip start path) (leads : tree.follow? start path = some node)
    : (tree.visible? skip node).isSome := by
  obtain ⟨last, function, there, named, kept⟩ := shown path List.prefix_rfl
  obtain rfl : last = node := Option.some.inj (there.symm.trans leads)
  exact visible?_isSome_iff.mpr ⟨function, named, kept⟩

/-- Whatever has a function is a node of the tree. -/
theorem lt_of_visible {skip : String → Bool} {node : Nat}
    (visible : (tree.visible? skip node).isSome)
    : node < tree.nodes.length := by
  obtain ⟨function, named, -⟩ := visible?_isSome_iff.mp visible
  obtain ⟨found, there, -⟩ := Option.bind_eq_some_iff.mp named
  exact (List.getElem?_eq_some_iff.mp there).1

/-- Such a path starts at a node of the tree. -/
theorem Unhidden.inside {skip : String → Bool} {start : Nat} {path : List Nat}
    (shown : tree.Unhidden skip start path)
    : start < tree.nodes.length :=
  lt_of_visible (unhidden_nil.mp fun front before => shown front (before.trans List.nil_prefix))

/-- No two paths from a node lead to the same node, by induction on one of them from its last
position on.
-/
theorem Grown.follow?_inj (grown : tree.Grown) (layered : tree.Layered) {start node : Nat}
    {path other : List Nat} (leads : tree.follow? start path = some node)
    (leadsToo : tree.follow? start other = some node)
    : path = other := by
  have size : path.length = other.length := by
    have level := layered.level_of_follow leads
    have levelToo := layered.level_of_follow leadsToo
    omega
  induction path using List.reverseRecOn generalizing node other with
  | nil => exact (List.length_eq_zero_iff.mp size.symm).symm
  | append_singleton front position ih =>
      rcases List.eq_nil_or_concat' other with rfl | ⟨back, place, rfl⟩
      · simp at size
      · obtain ⟨above, first, child⟩ := follow?_concat_eq_some.mp leads
        obtain ⟨above', second, childToo⟩ := follow?_concat_eq_some.mp leadsToo
        obtain ⟨rfl, rfl⟩ := grown.once node above above' position place child childToo
        rw [ih first second (by simpa using size)]

-----------------------------------------------------------------------------------------
-- Listings
-----------------------------------------------------------------------------------------

/-- The nodes below a start, itself included, to which a path of bounded length leads on which
nothing is skipped: each of them once, in breadth-first order.
-/
structure Lists (tree : CallTree) (maxDistance : Nat) (skip : String → Bool) (start : Nat)
    (listed : List Nat)
    : Prop where
  once : listed.Nodup
  ordered : listed.Pairwise (tree.BeforeFrom start)
  members
    : ∀ node,
        node ∈ listed
        ↔ ∃ path,
            tree.follow? start path = some node
            ∧ tree.Unhidden skip start path
            ∧ path.length ≤ maxDistance

/-- Of two nodes only one comes before the other. -/
theorem Grown.beforeFrom_asymm (grown : tree.Grown) (layered : tree.Layered)
    {start node later : Nat} (before : tree.BeforeFrom start node later)
    : ¬ tree.BeforeFrom start later node := by
  rintro ⟨path, other, leads, leadsToo, back⟩
  obtain ⟨front, behind, first, second, forth⟩ := before
  obtain rfl := grown.follow?_inj layered leads second
  obtain rfl := grown.follow?_inj layered leadsToo first
  exact asymm forth back

/-- There is only one such listing. -/
theorem Lists.unique (grown : tree.Grown) (layered : tree.Layered) {maxDistance : Nat}
    {skip : String → Bool} {start : Nat} {listed others : List Nat}
    (lists : tree.Lists maxDistance skip start listed)
    (listsToo : tree.Lists maxDistance skip start others)
    : listed = others := by
  have same : listed.Perm others := by
    rw [List.perm_ext_iff_of_nodup lists.once listsToo.once]
    exact fun node => (lists.members node).trans (listsToo.members node).symm
  refine same.eq_of_pairwise (fun node later _ _ before after => ?_) lists.ordered
    listsToo.ordered
  exact absurd after (grown.beforeFrom_asymm layered before)

section

variable (maxDistance : Nat) (skip : String → Bool)

/-- The nodes that the walk of a test comes to and does not pass by. -/
def shown (tree : CallTree) (start : Nat) : List Nat :=
  (levelOrder (tree.nearby maxDistance skip (tree.level start)) tree.nodes.length [start]).filter
    fun node => (tree.visible? skip node).isSome

/-- A walk that goes on to some children only comes to a part of each generation. -/
theorem WithinChildren.generations_sublist {expand : Nat → List Nat}
    (within : tree.WithinChildren expand) (start count : Nat)
    : (generations expand [start] count).Sublist (generations tree.children [start] count) := by
  have part (steps : Nat)
      : (generation expand [start] steps).Sublist (generation tree.children [start] steps) := by
    induction steps with
    | zero => exact List.Sublist.refl _
    | succ steps ih =>
        exact (List.Sublist.flatMap_right _ fun node _ => within node).trans (ih.flatMap _)
  exact List.Sublist.flatMap_right _ fun steps _ => part steps

theorem mem_nearby {start above node : Nat}
    : node ∈ tree.nearby maxDistance skip start above
      ↔ (tree.visible? skip above).isSome
        ∧ tree.level above - start < maxDistance
        ∧ node ∈ tree.children above := by
  rw [nearby, List.mem_ite_nil_right, and_assoc]

/-- An unhidden path of bounded length leads to each node that is shown: each step of the walk goes
on from a node that is not skipped and lies below the bound.
-/
theorem exists_path_of_shown (layered : tree.Layered) {start node : Nat}
    (member : node ∈ tree.shown maxDistance skip start)
    : ∃ path,
        tree.follow? start path = some node
        ∧ tree.Unhidden skip start path
        ∧ path.length ≤ maxDistance := by
  obtain ⟨walked, visible⟩ := List.mem_filter.mp member
  have paths : ∀ node ∈ levelOrder (tree.nearby maxDistance skip (tree.level start))
        tree.nodes.length [start],
      ∃ path,
        tree.follow? start path = some node
        ∧ ((tree.visible? skip node).isSome → tree.Unhidden skip start path)
        ∧ path.length ≤ maxDistance := by
    refine levelOrder_forall ?_ ?_
    · intro first queued
      obtain rfl : first = start := by simpa using queued
      exact ⟨[], rfl, unhidden_nil.mpr, Nat.zero_le _⟩
    · rintro above ⟨path, leads, unhidden, -⟩ child next
      obtain ⟨kept, near, listed⟩ := (mem_nearby maxDistance skip).mp next
      obtain ⟨position, there⟩ := List.mem_iff_getElem?.mp listed
      have below : tree.follow? start (path ++ [position]) = some child :=
        follow?_concat_eq_some.mpr ⟨above, leads, there⟩
      have level := layered.level_of_follow leads
      refine ⟨path ++ [position], below, ?_, ?_⟩
      · exact fun visible => (unhidden_concat below).mpr ⟨unhidden kept, visible⟩
      · rw [List.length_append, List.length_singleton]
        omega
  obtain ⟨path, leads, unhidden, short⟩ := paths node walked
  exact ⟨path, leads, unhidden visible, short⟩

/-- A node to which an unhidden path of bounded length leads is shown, by induction on the path from
its last position on.
-/
theorem Grown.mem_shown_of_path (grown : tree.Grown) (layered : tree.Layered)
    {start node : Nat} {path : List Nat} (leads : tree.follow? start path = some node)
    (unhidden : tree.Unhidden skip start path) (short : path.length ≤ maxDistance)
    : node ∈ tree.shown maxDistance skip start := by
  have within := withinChildren_nearby maxDistance skip tree (tree.level start)
  obtain ⟨-, -, first, closed⟩ :=
    (layered.frontier within unhidden.inside).complete (grown.branching layered within start)
  refine List.mem_filter.mpr ⟨?_, unhidden.visible leads⟩
  induction path using List.reverseRecOn generalizing node with
  | nil =>
      obtain rfl : start = node := Option.some.inj leads
      exact first (List.mem_singleton_self start)
  | append_singleton front position ih =>
      obtain ⟨above, outer, child⟩ := follow?_concat_eq_some.mp leads
      have kept := ((unhidden_concat leads).mp unhidden).1
      rw [List.length_append, List.length_singleton] at short
      have level := layered.level_of_follow outer
      refine closed above (ih outer kept (by omega)) ?_
      exact (mem_nearby maxDistance skip).mpr
        ⟨kept.visible outer, by omega, List.mem_of_getElem? child⟩

/-- The walk of a test shows its listing. -/
theorem Grown.lists_shown (grown : tree.Grown) (layered : tree.Layered) (start : Nat)
    : tree.Lists maxDistance skip start (tree.shown maxDistance skip start) := by
  have members (node : Nat)
      : node ∈ tree.shown maxDistance skip start
        ↔ ∃ path,
            tree.follow? start path = some node
            ∧ tree.Unhidden skip start path
            ∧ path.length ≤ maxDistance := by
    refine ⟨exists_path_of_shown maxDistance skip layered, ?_⟩
    rintro ⟨path, leads, unhidden, short⟩
    exact grown.mem_shown_of_path maxDistance skip layered leads unhidden short
  by_cases inside : start < tree.nodes.length
  · have within := withinChildren_nearby maxDistance skip tree (tree.level start)
    have frontier := layered.frontier within inside
    have branching := grown.branching layered within start
    refine ⟨(frontier.complete branching).1.filter _, ?_, members⟩
    have inOrder := (tree.pairwise_generations start tree.nodes.length).sublist
      (within.generations_sublist start tree.nodes.length)
    rw [← frontier.levelOrder_eq branching] at inOrder
    exact inOrder.filter _
  · -- Nothing is shown below a number of no node.
    have nothing : tree.shown maxDistance skip start = [] := by
      rw [List.eq_nil_iff_forall_not_mem]
      intro node member
      obtain ⟨path, -, unhidden, -⟩ := (members node).mp member
      exact inside unhidden.inside
    rw [nothing] at members ⊢
    exact ⟨List.nodup_nil, .nil, members⟩

-----------------------------------------------------------------------------------------
-- What is said of the nodes
-----------------------------------------------------------------------------------------

/-- A testee is about a node below a start: it has the function of the node, the test, and as its
distance the number of calls from the start to the node.
-/
structure Reports (tree : CallTree) (test : UnitTest) (start node : Nat) (testee : Testee)
    : Prop where
  function : tree.function? node = some testee.function
  test : testee.test = test
  distance : ∃ path, tree.follow? start path = some node ∧ testee.distance = path.length

variable (test : UnitTest)

/-- What a test reaches is said of the nodes that are shown. -/
theorem testeesBelow_eq (tree : CallTree) (start : Nat)
    : tree.testeesBelow test maxDistance skip start
      = (tree.shown maxDistance skip start).filterMap
          (tree.testee? test skip (tree.level start)) := by
  rw [shown, List.filterMap_filter]
  refine List.filterMap_congr fun node _ => ?_
  cases seen : tree.visible? skip node <;> simp [testee?, seen]

/-- Every node that is shown is reported on. -/
theorem testee?_reports (layered : tree.Layered) {start node : Nat}
    (member : node ∈ tree.shown maxDistance skip start)
    : ∃ testee,
        tree.testee? test skip (tree.level start) node = some testee
        ∧ tree.Reports test start node testee := by
  obtain ⟨path, leads, unhidden, -⟩ := exists_path_of_shown maxDistance skip layered member
  obtain ⟨function, seen⟩ := Option.isSome_iff_exists.mp (unhidden.visible leads)
  have level := layered.level_of_follow leads
  refine ⟨_, by rw [testee?, seen, Option.map_some], ?_, rfl, path, leads, ?_⟩
  · exact Option.eq_some_of_filter_eq_some seen
  · dsimp only
    omega

/-- Where each item has a result that is related to it, all results are related to the items. -/
theorem forall₂_filterMap {related : α → β → Prop} {result? : α → Option β} {items : List α}
    (each : ∀ item ∈ items, ∃ result, result? item = some result ∧ related item result)
    : List.Forall₂ related items (items.filterMap result?) := by
  induction items with
  | nil => exact .nil
  | cons item rest ih =>
      obtain ⟨⟨result, said, own⟩, others⟩ := List.forall_mem_cons.mp each
      rw [List.filterMap_cons_some said]
      exact .cons own (ih others)

/-- The testees below a start report on the nodes of its listing, one by one. -/
theorem Grown.testeesBelow_listed (grown : tree.Grown) (layered : tree.Layered) (start : Nat)
    : ∃ listed,
        tree.Lists maxDistance skip start listed
        ∧ List.Forall₂ (tree.Reports test start) listed
            (tree.testeesBelow test maxDistance skip start) := by
  refine ⟨_, grown.lists_shown maxDistance skip layered start, ?_⟩
  rw [testeesBelow_eq]
  exact forall₂_filterMap fun node member => testee?_reports maxDistance skip test layered member

/-- Nothing is shown below the root, which has no function. -/
theorem testeesBelow_root (rootless : tree.function? 0 = none)
    : tree.testeesBelow test maxDistance skip 0 = [] := by
  have hidden : tree.visible? skip 0 = none := by rw [visible?, rootless]; rfl
  rw [testeesBelow]
  cases tree.nodes.length <;> simp [levelOrder, nearby, hidden]

-----------------------------------------------------------------------------------------
-- Smaller bounds
-----------------------------------------------------------------------------------------

variable {maxDistance skip}

/-- A listing with a smaller bound leaves out the nodes that are too deep. -/
theorem Lists.within (layered : tree.Layered) {start shorter : Nat} {listed : List Nat}
    (lists : tree.Lists maxDistance skip start listed) (less : shorter ≤ maxDistance)
    : tree.Lists shorter skip start
        (listed.filter fun node => tree.level node - tree.level start ≤ shorter) where
  once := lists.once.filter _
  ordered := lists.ordered.filter _
  members node := by
    rw [List.mem_filter, lists.members, decide_eq_true_iff]
    constructor
    · rintro ⟨⟨path, leads, unhidden, -⟩, near⟩
      have level := layered.level_of_follow leads
      exact ⟨path, leads, unhidden, by omega⟩
    · rintro ⟨path, leads, unhidden, short⟩
      have level := layered.level_of_follow leads
      exact ⟨⟨path, leads, unhidden, by omega⟩, by omega⟩

/-- With a smaller bound a test reaches what it reaches with the larger one, as far as this is near
enough.
-/
theorem Grown.testeesBelow_filter (grown : tree.Grown) (layered : tree.Layered) {shorter : Nat}
    (less : shorter ≤ maxDistance) (start : Nat)
    : tree.testeesBelow test shorter skip start
      = (tree.testeesBelow test maxDistance skip start).filter (·.distance ≤ shorter) := by
  have near := (grown.lists_shown maxDistance skip layered start).within layered less
  rw [testeesBelow_eq, testeesBelow_eq,
    (grown.lists_shown shorter skip layered start).unique grown layered near,
    List.filterMap_filter, List.filter_filterMap]
  refine List.filterMap_congr fun node _ => ?_
  cases seen : tree.visible? skip node <;> simp [testee?, seen, Option.filter_some]

end

-----------------------------------------------------------------------------------------
-- Trees that are built
-----------------------------------------------------------------------------------------

theorem function?_root (mapping : List Nat) (functions : List String)
    : (ofMapping mapping functions).function? 0 = none := by
  simp only [function?, ofMapping, List.getElem?_map, Option.bind_eq_none_iff]
  intro found there
  obtain ⟨number, first, rfl⟩ := Option.map_eq_some_iff.mp there
  obtain ⟨-, rfl⟩ := List.getElem?_eq_some_iff.mp first
  simp [node]

/-- In every tree that is built, a test reaches what it reaches below each of its starts, one after
the other, and nothing below the root. Below a start this is said of the nodes to which a path of
bounded length leads on which nothing is skipped: of each of them once, in breadth-first order and
with the length of the path. A smaller bound only leaves out what is farther away.
-/
theorem testees_listed {mapping : List Nat} {functions : List String}
    (built : build? mapping functions = some tree) (test : UnitTest) (maxDistance : Nat)
    (skip : String → Bool)
    : (∀ starts,
        tree.testees? starts test maxDistance skip
          = some (starts.flatMap (tree.testeesBelow test maxDistance skip)))
      ∧ tree.testeesBelow test maxDistance skip 0 = []
      ∧ (∀ start,
          ∃ listed,
            tree.Lists maxDistance skip start listed
            ∧ List.Forall₂ (tree.Reports test start) listed
                (tree.testeesBelow test maxDistance skip start))
      ∧ ∀ start shorter,
          shorter ≤ maxDistance
          → tree.testeesBelow test shorter skip start
            = (tree.testeesBelow test maxDistance skip start).filter (·.distance ≤ shorter) := by
  obtain ⟨filled, rfl⟩ := eq_ofMapping_of_build? built
  have grown := grown_ofMapping mapping functions
  have layered := layered_ofMapping filled functions
  refine ⟨?_, ?_, ?_, ?_⟩
  · exact fun starts => testees?_of_build built starts test maxDistance skip
  · exact testeesBelow_root maxDistance skip test (function?_root mapping functions)
  · exact grown.testeesBelow_listed maxDistance skip test layered
  · exact fun start shorter less => grown.testeesBelow_filter test layered less start

/-- The first of six functions calls the second and the fifth one, the second one calls the third
and the fourth one, and the fifth one, which is skipped, calls the sixth one. A test that starts at
the first function, at the root and at the second one comes to the third one twice, and with a
smaller bound only from the nearer start.
-/
theorem sample_testees_listed
    : let mapping := [0, 1, 1, 2, 2, 1, 5]
      let functions := ["main", "parse", "lex", "alloc", "eval", "add"]
      let test : UnitTest := { id := "t", entry := "main" }
      let reached (function : String) (distance : Nat) : Testee := { function, test, distance }
      ∃ tree listed,
        build? mapping functions = some tree
        ∧ tree.testees? [1, 0, 2] test 2 (· == "eval")
          = some [reached "main" 0, reached "parse" 1, reached "lex" 2, reached "alloc" 2,
              reached "parse" 0, reached "lex" 1, reached "alloc" 1]
        ∧ tree.testees? [1, 0, 2] test 1 (· == "eval")
          = some [reached "main" 0, reached "parse" 1, reached "parse" 0, reached "lex" 1,
              reached "alloc" 1]
        ∧ tree.Lists 2 (· == "eval") 1 listed
        ∧ List.Forall₂ (tree.Reports test 1) listed
            [reached "main" 0, reached "parse" 1, reached "lex" 2, reached "alloc" 2] := by
  intro mapping functions test reached
  have built : build? mapping functions = some (ofMapping mapping functions) := by decide
  obtain ⟨joined, -, listings, -⟩ := testees_listed built test 2 (· == "eval")
  obtain ⟨joinedToo, -⟩ := testees_listed built test 1 (· == "eval")
  obtain ⟨listed, lists, reports⟩ := listings 1
  refine ⟨_, listed, built, ?_, ?_, lists, ?_⟩
  · rw [joined]
    decide
  · rw [joinedToo]
    decide
  · have below : (ofMapping mapping functions).testeesBelow test 2 (· == "eval") 1
        = [reached "main" 0, reached "parse" 1, reached "lex" 2, reached "alloc" 2] := by
      decide
    rwa [below] at reports

end MutationTesting.CallTree
