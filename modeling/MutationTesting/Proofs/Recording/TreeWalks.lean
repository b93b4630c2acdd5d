import Mathlib.Data.List.Shortlex
import MutationTesting.Proofs.Recording.TreeBuilding
import MutationTesting.Recording.Testee

/-! Walks through a tree with a queue. They remember nothing of what they have handled and still
end after each node at most once, wherever they start, since no node is a child in two places and
children lie on deeper levels. The search for given functions finds them in breadth-first order.
-/

namespace MutationTesting.CallTree

variable {tree : CallTree}

-----------------------------------------------------------------------------------------
-- Loops over the nodes of a tree
-----------------------------------------------------------------------------------------

/-- With any budget that suffices for all nodes of the tree a loop ends with the given result, and
it has handled nodes of the tree only, each at most once.
-/
def EndsWith (tree : CallTree) (loop : (budget : Nat) → Option (List Nat × σ)) (result : σ)
    : Prop :=
  ∃ handled,
    handled.Nodup
    ∧ (∀ node ∈ handled, node < tree.nodes.length)
    ∧ ∀ budget, tree.nodes.length ≤ budget → loop budget = some (handled, result)

section

variable {expand : Nat → List Nat} {handle : Nat → σ → Option (List Nat × σ)}
  {holds : List Nat → List Nat → σ → Prop}

theorem EndsWith.eq_some {queue : List Nat} {state result : σ}
    (ends : EndsWith tree (drain handle · queue state) result)
    : (drain handle tree.nodes.length queue state).map Prod.snd = some result := by
  obtain ⟨handled, -, -, last⟩ := ends
  have enough := last tree.nodes.length (Nat.le_refl _)
  dsimp only at enough
  rw [enough]
  rfl

/-- A loop that goes on to children only ends from whatever node it starts. -/
theorem Grown.endsWith (grown : tree.Grown) (layered : tree.Layered)
    (within : tree.WithinChildren expand) {start : Nat} (inside : start < tree.nodes.length)
    (along : HandlesAlong expand (tree.deeper start) handle holds False) {state : σ}
    (now : holds [] [start] state)
    : ∃ last,
        EndsWith tree (drain handle · [start] state) last
        ∧ holds (levelOrder expand tree.nodes.length [start]) [] last := by
  have branching := grown.branching layered within start
  have frontier := layered.frontier within inside
  obtain ⟨last, ends, fits⟩ := frontier.drain_ends branching along now
  obtain ⟨unique, known, -⟩ := frontier.complete branching
  exact ⟨last, ⟨_, unique, fun node member => (mem_deeper.mp (known member)).1, ends⟩, fits⟩

end

-----------------------------------------------------------------------------------------
-- The search for functions
-----------------------------------------------------------------------------------------

/-- Whether a node is one of the given functions. -/
def isNamed (tree : CallTree) (entryPoints : List String) (node : Nat) : Bool :=
  (tree.function? node).any entryPoints.contains

theorem isNamed_iff {entryPoints : List String} {node : Nat}
    : tree.isNamed entryPoints node
      ↔ ∃ function ∈ entryPoints, tree.function? node = some function := by
  simp [isNamed, Option.any_eq_true, and_comm]

theorem withinChildren_children (tree : CallTree) : tree.WithinChildren tree.children :=
  fun node => List.Sublist.refl (tree.children node)

/-- Having handled some nodes, the search has found those of them that are asked for. -/
theorem seek?_along (tree : CallTree) (entryPoints : List String) (start : Nat)
    : HandlesAlong tree.children (tree.deeper start) (tree.seek? entryPoints)
        (fun handled _ found => found = handled.filter (tree.isNamed entryPoints)) False := by
  rintro handled item queue budget found frontier rfl
  have met : item ∈ handled ++ item :: queue := by simp
  obtain ⟨node, there, function, -, children⟩ :=
    exists_node (mem_deeper.mp (frontier.known met)).1
  refine .inl ⟨_, ?_, rfl⟩
  rw [seek?, there, children, List.filter_append]
  simp [isNamed, function, List.filter_cons]

/-- The search ends with the nodes on the walk that are asked for. -/
theorem Grown.seek?_ends (grown : tree.Grown) (layered : tree.Layered) (entryPoints : List String)
    : EndsWith tree (drain (tree.seek? entryPoints) · [0] []) (tree.subtrees entryPoints) := by
  obtain ⟨found, ends, rfl⟩ := grown.endsWith layered tree.withinChildren_children layered.filled
    (tree.seek?_along entryPoints 0) rfl
  exact ends

/-- The walk comes to no node twice. -/
theorem Grown.nodup_walk (grown : tree.Grown) (layered : tree.Layered) : tree.walk.Nodup := by
  obtain ⟨unique, -⟩ :=
    (layered.frontier tree.withinChildren_children layered.filled).complete
      (grown.branching layered tree.withinChildren_children 0)
  exact unique

/-- The walk comes to a node just where a path leads to it. -/
theorem Grown.mem_walk (grown : tree.Grown) (layered : tree.Layered) {node : Nat}
    : node ∈ tree.walk ↔ ∃ path, tree.follow? 0 path = some node := by
  obtain ⟨-, -, start, closed⟩ :=
    (layered.frontier tree.withinChildren_children layered.filled).complete
      (grown.branching layered tree.withinChildren_children 0)
  have paths : ∀ node ∈ tree.walk, ∃ path, tree.follow? 0 path = some node := by
    refine levelOrder_forall ?_ ?_
    · intro first member
      obtain rfl : first = 0 := by simpa using member
      exact ⟨[], rfl⟩
    · rintro above ⟨path, leads⟩ child member
      exact exists_path_of_child leads member
  refine ⟨paths node, ?_⟩
  rintro ⟨path, leads⟩
  induction path using List.reverseRecOn generalizing node with
  | nil =>
      obtain rfl : 0 = node := Option.some.inj leads
      exact start (List.mem_singleton_self 0)
  | append_singleton front position ih =>
      obtain ⟨above, first, child⟩ := follow?_concat_eq_some.mp leads
      exact closed above (ih first) (List.mem_of_getElem? child)

-----------------------------------------------------------------------------------------
-- Breadth-first order
-----------------------------------------------------------------------------------------

/-- A node comes before another one in breadth-first order: a shorter path leads to it, or one of
the same length that takes the child at an earlier position where the two paths part.
-/
def Before (tree : CallTree) (node later : Nat) : Prop :=
  ∃ path other,
    tree.follow? 0 path = some node
    ∧ tree.follow? 0 other = some later
    ∧ List.Shortlex (· < ·) path other

theorem shortlex_concat {path other : List Nat} (before : List.Shortlex (· < ·) path other)
    (position place : Nat)
    : List.Shortlex (· < ·) (path ++ [position]) (other ++ [place]) := by
  rcases List.shortlex_def.mp before with shorter | ⟨size, earlier⟩
  · exact .of_length_lt (by simpa using shorter)
  · refine .of_lex (by simpa using size) ?_
    induction earlier with
    | nil => simp at size
    | rel less => exact .rel less
    | cons _ ih =>
        have rest := Nat.succ.inj size
        exact .cons (ih (.of_lex rest ‹_›) rest)

/-- A node comes before another one on the walk from some node: what leads to it from there is
shorter, or of the same length and earlier where the two paths part.
-/
def BeforeFrom (tree : CallTree) (start node later : Nat) : Prop :=
  ∃ path other,
    tree.follow? start path = some node
    ∧ tree.follow? start other = some later
    ∧ List.Shortlex (· < ·) path other

/-- Paths of the same length lead to all nodes of a generation. -/
theorem path_of_generation {start node steps : Nat}
    (member : node ∈ generation tree.children [start] steps)
    : ∃ path, path.length = steps ∧ tree.follow? start path = some node := by
  induction steps generalizing node with
  | zero =>
      obtain rfl : node = start := List.mem_singleton.mp member
      exact ⟨[], rfl, rfl⟩
  | succ steps ih =>
      obtain ⟨above, outer, child⟩ := List.mem_flatMap.mp member
      obtain ⟨path, size, leads⟩ := ih outer
      obtain ⟨position, there⟩ := List.mem_iff_getElem?.mp child
      exact ⟨path ++ [position], by simp [size],
        follow?_concat_eq_some.mpr ⟨above, leads, there⟩⟩

/-- The nodes of a generation are in breadth-first order, by induction on its number. -/
theorem pairwise_generation (tree : CallTree) (start steps : Nat)
    : (generation tree.children [start] steps).Pairwise (tree.BeforeFrom start) := by
  induction steps with
  | zero => exact List.pairwise_singleton _ start
  | succ steps ih =>
      refine List.pairwise_flatMap.mpr ⟨fun above outer => ?_, ih.imp ?_⟩
      · obtain ⟨path, -, leads⟩ := path_of_generation outer
        rw [List.pairwise_iff_getElem]
        intro position place first second earlier
        refine ⟨path ++ [position], path ++ [place], ?_, ?_, ?_⟩
        · exact follow?_concat_eq_some.mpr ⟨above, leads, List.getElem?_eq_getElem first⟩
        · exact follow?_concat_eq_some.mpr ⟨above, leads, List.getElem?_eq_getElem second⟩
        · exact ((List.shortlex_singleton_iff position place).mpr earlier).append_left path
      · rintro above next ⟨path, other, leads, leadsToo, before⟩ node child later childToo
        obtain ⟨position, first⟩ := List.mem_iff_getElem?.mp child
        obtain ⟨place, second⟩ := List.mem_iff_getElem?.mp childToo
        refine ⟨path ++ [position], other ++ [place], ?_, ?_, shortlex_concat before position place⟩
        · exact follow?_concat_eq_some.mpr ⟨above, leads, first⟩
        · exact follow?_concat_eq_some.mpr ⟨next, leadsToo, second⟩

/-- Generations that follow each other are in breadth-first order. -/
theorem pairwise_generations (tree : CallTree) (start count : Nat)
    : (generations tree.children [start] count).Pairwise (tree.BeforeFrom start) := by
  rw [generations, List.pairwise_flatMap]
  refine ⟨fun steps _ => pairwise_generation tree start steps, List.pairwise_lt_range.imp ?_⟩
  intro steps more fewer node member later next
  obtain ⟨path, size, leads⟩ := path_of_generation member
  obtain ⟨other, sizeToo, leadsToo⟩ := path_of_generation next
  exact ⟨path, other, leads, leadsToo, .of_length_lt (by omega)⟩

/-- The walk is in breadth-first order. -/
theorem Grown.pairwise_walk (grown : tree.Grown) (layered : tree.Layered)
    : tree.walk.Pairwise tree.Before := by
  have frontier := layered.frontier tree.withinChildren_children layered.filled
  have branching := grown.branching layered tree.withinChildren_children 0
  rw [walk, frontier.levelOrder_eq branching]
  exact pairwise_generations tree 0 tree.nodes.length

-----------------------------------------------------------------------------------------
-- The walk of a test
-----------------------------------------------------------------------------------------

section

variable (test : UnitTest) (maxDistance : Nat) (skip : String → Bool)

theorem withinChildren_nearby (tree : CallTree) (start : Nat)
    : tree.WithinChildren (tree.nearby maxDistance skip start) := by
  intro node
  unfold nearby
  split
  · exact List.Sublist.refl _
  · exact List.nil_sublist _

/-- What comes of one node on the walk of a test. -/
def testee? (tree : CallTree) (start node : Nat) : Option Testee :=
  (tree.visible? skip node).map fun function =>
    { function, test, distance := tree.level node - start }

/-- Having handled some nodes from a root on, a walk has added what comes of them. None of them lies
above the root, so that all have a distance.
-/
theorem reach?_along (tree : CallTree) (root : Nat) (found : List Testee)
    : HandlesAlong (tree.nearby maxDistance skip (tree.level root)) (tree.deeper root)
        (tree.reach? test maxDistance skip (tree.level root))
        (fun handled _ all =>
          all = found ++ handled.filterMap (tree.testee? test skip (tree.level root)))
        False := by
  rintro handled item queue budget all frontier rfl
  have met : item ∈ handled ++ item :: queue := by simp
  obtain ⟨inside, below⟩ := mem_deeper.mp (frontier.known met)
  obtain ⟨node, there, function, level, children⟩ := exists_node inside
  have near : tree.level root ≤ tree.level item := by
    rcases below with rfl | deeper
    · exact Nat.le_refl _
    · exact Nat.le_of_lt deeper
  refine .inl ⟨_, ?_, rfl⟩
  rw [reach?, there, List.filterMap_append]
  cases named : node.function with
  | none => simp [nearby, testee?, visible?, function, named]
  | some name =>
      by_cases hidden : skip name
      · simp [nearby, testee?, visible?, function, named, hidden]
      · simp [nearby, testee?, visible?, function, named, hidden, distance?, ← level, near,
          ← children]

/-- The walk of a test ends from whatever node it starts. -/
theorem Grown.reach?_ends (grown : tree.Grown) (layered : tree.Layered) {root : Nat}
    (inside : root < tree.nodes.length) (found : List Testee)
    : EndsWith tree
        (drain (tree.reach? test maxDistance skip (tree.level root)) · [root] found)
        (found ++ tree.testeesBelow test maxDistance skip root) := by
  obtain ⟨all, ends, rfl⟩ := grown.endsWith layered
    (withinChildren_nearby maxDistance skip tree (tree.level root)) inside
    (reach?_along test maxDistance skip tree root found) (List.append_nil found).symm
  exact ends

/-- What a test reaches below one more root is added to what was found. -/
theorem Grown.addTestees?_eq (grown : tree.Grown) (layered : tree.Layered) (found : List Testee)
    (root : Nat)
    : tree.addTestees? test maxDistance skip found root
      = some (found ++ tree.testeesBelow test maxDistance skip root) := by
  by_cases inside : root < tree.nodes.length
  · obtain ⟨node, there, -, level, -⟩ := exists_node inside
    have ends := grown.reach?_ends test maxDistance skip layered inside found
    rw [level] at ends
    rw [addTestees?, there]
    exact ends.eq_some
  · have nowhere : tree.nodes[root]? = none := List.getElem?_eq_none (Nat.not_lt.mp inside)
    have hidden : tree.visible? skip root = none := by simp [visible?, function?, nowhere]
    obtain ⟨budget, size⟩ := Nat.exists_eq_succ_of_ne_zero (Nat.ne_of_gt layered.filled)
    have nothing : tree.testeesBelow test maxDistance skip root = [] := by
      simp [testeesBelow, size, levelOrder, nearby, hidden]
    rw [addTestees?, nowhere, nothing, List.append_nil]

/-- A test reaches what it reaches below each root, whatever the roots are. -/
theorem Grown.testees?_eq (grown : tree.Grown) (layered : tree.Layered) (roots : List Nat)
    : tree.testees? roots test maxDistance skip
      = some (tree.testees roots test maxDistance skip) := by
  have adding (found : List Testee)
      : roots.foldlM (tree.addTestees? test maxDistance skip) found
        = some (found ++ tree.testees roots test maxDistance skip) := by
    induction roots generalizing found with
    | nil => simp [testees]
    | cons root roots ih =>
        rw [List.foldlM_cons, grown.addTestees?_eq test maxDistance skip layered,
          Option.bind_eq_bind, Option.bind_some, ih, List.append_assoc]
        rfl
  exact adding []

end

-----------------------------------------------------------------------------------------
-- Trees that are built
-----------------------------------------------------------------------------------------

/-- The search in a tree that is built comes to its end. -/
theorem subtrees?_of_build {mapping : List Nat} {functions : List String}
    (built : build? mapping functions = some tree) (entryPoints : List String)
    : tree.subtrees? entryPoints = some (tree.subtrees entryPoints) := by
  obtain ⟨filled, rfl⟩ := eq_ofMapping_of_build? built
  exact ((grown_ofMapping mapping functions).seek?_ends (layered_ofMapping filled functions)
    entryPoints).eq_some

/-- The walks of a test through a tree that is built come to their ends. -/
theorem testees?_of_build {mapping : List Nat} {functions : List String}
    (built : build? mapping functions = some tree) (roots : List Nat) (test : UnitTest)
    (maxDistance : Nat) (skip : String → Bool)
    : tree.testees? roots test maxDistance skip
      = some (tree.testees roots test maxDistance skip) := by
  obtain ⟨filled, rfl⟩ := eq_ofMapping_of_build? built
  exact (grown_ofMapping mapping functions).testees?_eq test maxDistance skip
    (layered_ofMapping filled functions) roots

/-- In every tree that is built, walks end after each node at most once and without a failing
step. The search for functions finds the reachable nodes of these functions, each once and in
breadth-first order; a test may start at any numbers, of which those of no node are passed over.
-/
theorem walks_end {mapping : List Nat} {functions : List String}
    (built : build? mapping functions = some tree)
    : (∀ entryPoints,
        let found := tree.subtrees entryPoints
        EndsWith tree (drain (tree.seek? entryPoints) · [0] []) found
        ∧ tree.subtrees? entryPoints = some found
        ∧ found.Nodup
        ∧ found.Pairwise tree.Before
        ∧ ∀ node,
            node ∈ found
              ↔ (∃ path, tree.follow? 0 path = some node)
                ∧ ∃ function ∈ entryPoints, tree.function? node = some function)
      ∧ ∀ test maxDistance skip,
          (∀ root found,
            root < tree.nodes.length
            → EndsWith tree
                (drain (tree.reach? test maxDistance skip (tree.level root)) · [root] found)
                (found ++ tree.testeesBelow test maxDistance skip root))
          ∧ ∀ roots,
              tree.testees? roots test maxDistance skip
                = some (tree.testees roots test maxDistance skip) := by
  obtain ⟨filled, rfl⟩ := eq_ofMapping_of_build? built
  have grown := grown_ofMapping mapping functions
  have layered := layered_ofMapping filled functions
  refine ⟨fun entryPoints => ?_, fun test maxDistance skip => ⟨?_, ?_⟩⟩
  · intro found
    have ends := grown.seek?_ends layered entryPoints
    refine ⟨ends, subtrees?_of_build built entryPoints, ?_, ?_, fun node => ?_⟩
    · exact (grown.nodup_walk layered).filter _
    · exact (grown.pairwise_walk layered).filter _
    · rw [← grown.mem_walk layered, ← isNamed_iff]
      exact List.mem_filter
  · exact fun root found inside => grown.reach?_ends test maxDistance skip layered inside found
  · exact fun roots => testees?_of_build built roots test maxDistance skip

/-- The first and the second of four functions call each other; the third one is called from
outside and calls the fourth one. A test may also start at a function of the circle, which has no
children, or at a number of no node.
-/
theorem sample_walks_end
    : let mapping := [0, 2, 1, 3, 3]
      let functions := ["a", "b", "c", "d"]
      let test : UnitTest := { id := "t", entry := "c" }
      ∃ tree,
        build? mapping functions = some tree
        ∧ tree.subtrees? ["d", "c", "a"] = some [3, 4]
        ∧ tree.Before 3 4
        ∧ tree.testees? [1, 9, 3] test 5 (· == "b")
          = some [
              { function := "a", test, distance := 0 },
              { function := "c", test, distance := 0 },
              { function := "d", test, distance := 1 }
            ] := by
  intro mapping functions test
  have built : build? mapping functions = some (ofMapping mapping functions) := by decide
  obtain ⟨searches, walks⟩ := walks_end built
  obtain ⟨-, found, -, order, -⟩ := searches ["d", "c", "a"]
  have nodes : (ofMapping mapping functions).subtrees ["d", "c", "a"] = [3, 4] := by decide
  rw [nodes] at found order
  refine ⟨_, built, found, ?_, ?_⟩
  · exact (List.pairwise_cons.mp order).1 4 (by decide)
  · rw [(walks test 5 (· == "b")).2 [1, 9, 3]]
    decide

end MutationTesting.CallTree
