import Mathlib.Data.List.Induction
import MutationTesting.Proofs.Recording.LevelOrder
import MutationTesting.Recording.CallTree

/-! The tree that a mapping describes, as seen by following children from the root. Every node hangs
below one place at most, so that no two paths lead to the same node; and whatever a node is attached
to has it among its children once it is reached itself.
-/

namespace MutationTesting.CallTree

-----------------------------------------------------------------------------------------
-- Nodes and what they are attached to
-----------------------------------------------------------------------------------------

theorem getElem?_parents (mapping : List Nat) (count node : Nat)
    : (parents mapping count)[node]?
      = if node < count then some (parent? mapping count node) else none := by
  unfold parents
  rw [List.getElem?_map]
  split
  · rename_i inside
    rw [List.getElem?_range inside, Option.map_some]
  · rename_i outside
    rw [List.getElem?_eq_none (by simpa using outside), Option.map_none]

@[simp] theorem length_parents (mapping : List Nat) (count : Nat)
    : (parents mapping count).length = count := by
  simp [parents]

theorem parent?_root (mapping : List Nat) (count : Nat) : parent? mapping count 0 = none := by
  simp [parent?]

section

variable {parents : List (Option Nat)} {above node : Nat}

theorem mem_attached : node ∈ attached parents above ↔ parents[node]? = some (some above) := by
  unfold attached
  rw [List.mem_filterMap]
  constructor
  · rintro ⟨⟨noted, number⟩, listed, same⟩
    split at same
    · rename_i hangs
      obtain rfl : number = node := Option.some.inj same
      rw [List.mem_zipIdx_iff_getElem?.mp listed]
      exact congrArg some hangs
    · contradiction
  · intro hangs
    exact ⟨(some above, node), List.mem_zipIdx_iff_getElem?.mpr hangs, by simp⟩

theorem nodup_attached (parents : List (Option Nat)) (above : Nat)
    : (attached parents above).Nodup := by
  have numbers : parents.zipIdx.Nodup := by
    apply List.Nodup.of_map Prod.snd
    rw [List.zipIdx_map_snd]
    exact List.nodup_range'
  refine List.Nodup.filterMap ?_ numbers
  rintro ⟨noted, number⟩ ⟨other, same⟩ node left right
  simp only [Option.mem_def, Option.ite_none_right_eq_some, Option.some.injEq] at left right
  rw [left.1, left.2, right.1, right.2]

/-- Nodes are attached to one node each. -/
theorem branching_attached (parents : List (Option Nat))
    : Branching (attached parents) (List.range parents.length) where
  closed above _ node member := by
    have inside := (List.getElem?_eq_some_iff.mp (mem_attached.mp member)).1
    exact List.mem_range.mpr inside
  distinct above _ := nodup_attached parents above
  apart node above other _ _ left right := by
    have same := (mem_attached.mp left).symm.trans (mem_attached.mp right)
    exact Option.some.inj (Option.some.inj same)

-----------------------------------------------------------------------------------------
-- Nodes that are reached from the root
-----------------------------------------------------------------------------------------

/-- The nodes reached from the root, without their depths. -/
def reachedNodes (parents : List (Option Nat)) : List Nat :=
  levelOrder (attached parents) parents.length [0]

theorem map_fst_reached (parents : List (Option Nat))
    : (reached parents).map Prod.fst = reachedNodes parents := by
  unfold reached reachedNodes
  refine map_levelOrder (fun node => ?_) parents.length [(0, 0)]
  rw [List.map_map]
  exact List.map_id _

/-- The nodes with a depth are those that are reached. -/
theorem lookup_reached_isSome
    : ((reached parents).lookup node).isSome ↔ node ∈ reachedNodes parents := by
  rw [List.lookup_isSome_iff, ← map_fst_reached]
  constructor
  · rintro ⟨entry, member, same⟩
    obtain rfl : node = entry.1 := beq_iff_eq.mp same
    exact List.mem_map_of_mem member
  · intro member
    obtain ⟨entry, there, rfl⟩ := List.mem_map.mp member
    exact ⟨entry, there, beq_self_eq_true entry.1⟩

/-- A walk may start at a root that is attached to nothing. -/
theorem frontier_root (root : parents[0]? = some none)
    : Frontier (attached parents) (List.range parents.length) [] [0] parents.length := by
  have inside : 0 < parents.length := (List.getElem?_eq_some_iff.mp root).1
  refine {
    known := by simpa using inside
    unique := List.nodup_singleton 0
    introduced := ?_
    budget := by simp
  }
  intro node member above _ hangs
  obtain rfl : node = 0 := by simpa using member
  rw [mem_attached, root] at hangs
  simp at hangs

/-- The root is reached, and so is whatever is attached to a node that is reached. -/
theorem reachedNodes_closed (root : parents[0]? = some none)
    : reachedNodes parents ⊆ List.range parents.length
      ∧ 0 ∈ reachedNodes parents
      ∧ ∀ above ∈ reachedNodes parents, attached parents above ⊆ reachedNodes parents := by
  obtain ⟨-, known, queued, closed⟩ :=
    (frontier_root root).complete (branching_attached parents)
  exact ⟨known, queued (List.mem_singleton_self 0), closed⟩

end

-----------------------------------------------------------------------------------------
-- Trees of mappings
-----------------------------------------------------------------------------------------

/-- The number of nodes of the tree of a mapping, with its root. -/
def nodeCount (mapping : List Nat) (functions : List String) : Nat :=
  min mapping.length (functions.length + 1)

variable {mapping : List Nat} {functions : List String}

theorem nodeCount_pos (filled : mapping ≠ []) (functions : List String)
    : 0 < nodeCount mapping functions := by
  have size := List.length_pos_iff.mpr filled
  unfold nodeCount
  omega

/-- The root of a mapping that has an entry for it is attached to nothing. -/
theorem root_attached (filled : mapping ≠ []) (functions : List String)
    : (parents mapping (nodeCount mapping functions))[0]? = some none := by
  rw [getElem?_parents, if_pos (nodeCount_pos filled functions), parent?_root]

/-- A node that is reached from the root has what is attached to it as its children, and no other
node has any.
-/
theorem children_ofMapping (mapping : List Nat) (functions : List String) (node : Nat)
    : let parents := parents mapping (nodeCount mapping functions)
      (ofMapping mapping functions).children node
        = if node < nodeCount mapping functions ∧ node ∈ reachedNodes parents then
            attached parents node
          else
            [] := by
  intro parents
  have looked : ((reached parents).lookup node).isSome ↔ node ∈ reachedNodes parents :=
    lookup_reached_isSome
  have listed : (ofMapping mapping functions).nodes
      = (List.range (nodeCount mapping functions)).map
          (CallTree.node parents (reached parents) functions) :=
    rfl
  unfold children
  rw [listed, List.getElem?_map]
  by_cases inside : node < nodeCount mapping functions
  · rw [List.getElem?_range inside]
    simp only [CallTree.node, looked, inside, true_and, Option.map_some, Option.getD_some]
  · rw [List.getElem?_eq_none (by simpa using inside)]
    simp [inside]

-----------------------------------------------------------------------------------------
-- Paths
-----------------------------------------------------------------------------------------

variable {tree : CallTree}

/-- A path that is longer by one position leads to a child of the node that the shorter one leads
to.
-/
theorem follow?_concat (tree : CallTree) (start position : Nat) (path : List Nat)
    : tree.follow? start (path ++ [position])
      = (tree.follow? start path).bind fun above => (tree.children above)[position]? := by
  induction path generalizing start with
  | nil => simp [follow?]
  | cons first rest ih =>
      simp only [List.cons_append, follow?]
      cases (tree.children start)[first]? with
      | none => rfl
      | some next => exact ih next

theorem follow?_concat_eq_some {start position node : Nat} {path : List Nat}
    : tree.follow? start (path ++ [position]) = some node
      ↔ ∃ above,
          tree.follow? start path = some above ∧ (tree.children above)[position]? = some node := by
  rw [follow?_concat, Option.bind_eq_some_iff]

/-- A path that leads to a node can be continued to each of its children. -/
theorem exists_path_of_child {start above node : Nat} {path : List Nat}
    (leads : tree.follow? start path = some above) (child : node ∈ tree.children above)
    : ∃ longer, tree.follow? start longer = some node := by
  obtain ⟨position, there⟩ := List.mem_iff_getElem?.mp child
  exact ⟨path ++ [position], follow?_concat_eq_some.mpr ⟨above, leads, there⟩⟩

/-- No node is a child in two places, and the root is no child at all. -/
structure Grown (tree : CallTree) : Prop where
  root : ∀ above, 0 ∉ tree.children above
  once
    : ∀ (node above other position place : Nat),
        (tree.children above)[position]? = some node
        → (tree.children other)[place]? = some node
        → above = other ∧ position = place

/-- No two paths from the root lead to the same node, by induction on one of them from its last
position on.
-/
theorem Grown.path_unique (grown : tree.Grown) {node : Nat} {path other : List Nat}
    (leads : tree.follow? 0 path = some node) (leadsToo : tree.follow? 0 other = some node)
    : path = other := by
  have notRoot (front : List Nat) (position : Nat)
      : tree.follow? 0 (front ++ [position]) ≠ some 0 := by
    intro back
    obtain ⟨above, -, child⟩ := follow?_concat_eq_some.mp back
    exact grown.root above (List.mem_of_getElem? child)
  induction path using List.reverseRecOn generalizing node other with
  | nil =>
      obtain rfl : 0 = node := Option.some.inj leads
      rcases List.eq_nil_or_concat' other with rfl | ⟨front, position, rfl⟩
      · rfl
      · exact absurd leadsToo (notRoot front position)
  | append_singleton front position ih =>
      rcases List.eq_nil_or_concat' other with rfl | ⟨back, place, rfl⟩
      · obtain rfl : 0 = node := Option.some.inj leadsToo
        exact absurd leads (notRoot front position)
      · obtain ⟨above, first, child⟩ := follow?_concat_eq_some.mp leads
        obtain ⟨above', second, childToo⟩ := follow?_concat_eq_some.mp leadsToo
        obtain ⟨rfl, rfl⟩ := grown.once node above above' position place child childToo
        rw [ih first second]

/-- Exactly one path leads from the root to the node, and the node before it on this path is the
given one.
-/
def HangsOnce (tree : CallTree) (above node : Nat) : Prop :=
  ∃ path position,
    tree.follow? 0 path = some above
    ∧ (tree.children above)[position]? = some node
    ∧ ∀ other, tree.follow? 0 other = some node ↔ other = path ++ [position]

/-- A child of a node that is reached from the root hangs below this node only. -/
theorem Grown.hangsOnce (grown : tree.Grown) {above node : Nat} {path : List Nat}
    (leads : tree.follow? 0 path = some above) (child : node ∈ tree.children above)
    : tree.HangsOnce above node := by
  obtain ⟨position, there⟩ := List.mem_iff_getElem?.mp child
  have below : tree.follow? 0 (path ++ [position]) = some node :=
    follow?_concat_eq_some.mpr ⟨above, leads, there⟩
  refine ⟨path, position, leads, there, fun other => ⟨fun leadsToo => ?_, ?_⟩⟩
  · exact grown.path_unique leadsToo below
  · rintro rfl
    exact below

theorem HangsOnce.exists_path {above node : Nat} (hangs : tree.HangsOnce above node)
    : ∃ path, tree.follow? 0 path = some node := by
  obtain ⟨path, position, -, -, leads⟩ := hangs
  exact ⟨path ++ [position], (leads _).mpr rfl⟩

-----------------------------------------------------------------------------------------
-- Paths in the tree of a mapping
-----------------------------------------------------------------------------------------

/-- A child in the tree of a mapping is attached to its node. -/
theorem attached_of_child {above node : Nat}
    (child : node ∈ (ofMapping mapping functions).children above)
    : (parents mapping (nodeCount mapping functions))[node]? = some (some above) := by
  rw [children_ofMapping] at child
  split at child
  · exact mem_attached.mp child
  · simp at child

/-- The node above a child in the tree of a mapping is the one that the mapping gives. -/
theorem parent?_of_child {above node : Nat}
    (child : node ∈ (ofMapping mapping functions).children above)
    : parent? mapping (nodeCount mapping functions) node = some above := by
  have hangs := attached_of_child child
  rw [getElem?_parents] at hangs
  split at hangs
  · exact Option.some.inj hangs
  · simp at hangs

/-- The tree of any mapping has every node at one place at most. -/
theorem grown_ofMapping (mapping : List Nat) (functions : List String)
    : (ofMapping mapping functions).Grown where
  root above child := by
    have hangs := parent?_of_child child
    rw [parent?_root] at hangs
    contradiction
  once node above other position place left right := by
    have same := (parent?_of_child (List.mem_of_getElem? left)).symm.trans
      (parent?_of_child (List.mem_of_getElem? right))
    obtain rfl : above = other := Option.some.inj same
    have distinct : ((ofMapping mapping functions).children above).Nodup := by
      rw [children_ofMapping]
      split
      · exact nodup_attached _ above
      · exact List.nodup_nil
    have inside := (List.getElem?_eq_some_iff.mp left).1
    exact ⟨rfl, (List.getElem?_inj inside distinct).mp (left.trans right.symm)⟩

/-- All nodes on paths from the root are reached, by induction on the path from its last position
on.
-/
theorem mem_reachedNodes_of_path (filled : mapping ≠ []) {node : Nat} {path : List Nat}
    (leads : (ofMapping mapping functions).follow? 0 path = some node)
    : node < nodeCount mapping functions
      ∧ node ∈ reachedNodes (parents mapping (nodeCount mapping functions)) := by
  obtain ⟨known, start, closed⟩ := reachedNodes_closed (root_attached filled functions)
  suffices reached : node ∈ reachedNodes (parents mapping (nodeCount mapping functions)) by
    exact ⟨by simpa using known reached, reached⟩
  induction path using List.reverseRecOn generalizing node with
  | nil =>
      obtain rfl : 0 = node := Option.some.inj leads
      exact start
  | append_singleton front position ih =>
      obtain ⟨above, first, child⟩ := follow?_concat_eq_some.mp leads
      exact closed above (ih first)
        (mem_attached.mpr (attached_of_child (List.mem_of_getElem? child)))

/-- What is attached to a node on a path from the root is among the children of that node. -/
theorem child_of_attached (filled : mapping ≠ []) {above node : Nat} {path : List Nat}
    (leads : (ofMapping mapping functions).follow? 0 path = some above)
    (hangs : (parents mapping (nodeCount mapping functions))[node]? = some (some above))
    : node ∈ (ofMapping mapping functions).children above := by
  rw [children_ofMapping, if_pos (mem_reachedNodes_of_path filled leads)]
  exact mem_attached.mpr hangs

end MutationTesting.CallTree
