import Mathlib.Logic.Function.Iterate
import MutationTesting.Proofs.Recording.TreeBuilding

/-! Which functions a tree has, for every mapping: those that were called and that come to the
root when one follows from each node the one above it. Others hang in a circle of functions that
only call each other, or below one; they keep their place among the nodes but no children.
-/

namespace MutationTesting.CallTree

variable {mapping : List Nat} {functions : List String}

-----------------------------------------------------------------------------------------
-- Paths and the nodes above
-----------------------------------------------------------------------------------------

/-- What is above a function is the root or was called itself. -/
theorem effectiveParent_called (mapping : List Nat) (count number : Nat)
    : effectiveParent mapping count number = 0
      ∨ mapping.getD (effectiveParent mapping count number) 0 ≠ 0 := by
  unfold effectiveParent
  dsimp only
  split
  · exact .inl rfl
  · rename_i inner
    exact .inr fun uncalled => inner (.inr (.inr uncalled))

/-- What hangs below another node was called and has this node above it. -/
theorem effectiveParent_of_child {above node : Nat}
    (child : node ∈ (ofMapping mapping functions).children above)
    : mapping.getD node 0 ≠ 0
      ∧ effectiveParent mapping (nodeCount mapping functions) node = above := by
  have hangs := parent?_of_child child
  have called : node ≠ 0 ∧ mapping.getD node 0 ≠ 0 := by
    rw [← not_or]
    intro nowhere
    rw [parent?, if_pos nowhere] at hangs
    cases hangs
  rw [parent?_of_called called.1 called.2] at hangs
  exact ⟨called.2, Option.some.inj hangs⟩

/-- From a node on a path the nodes above lead to the root, by induction on the path from its last
position on.
-/
theorem exists_steps_of_path {node : Nat} {path : List Nat}
    (leads : (ofMapping mapping functions).follow? 0 path = some node)
    : ∃ steps, (effectiveParent mapping (nodeCount mapping functions))^[steps] node = 0 := by
  induction path using List.reverseRecOn generalizing node with
  | nil =>
      obtain rfl : 0 = node := Option.some.inj leads
      exact ⟨0, rfl⟩
  | append_singleton front position ih =>
      obtain ⟨above, first, child⟩ := follow?_concat_eq_some.mp leads
      obtain ⟨steps, back⟩ := ih first
      refine ⟨steps + 1, ?_⟩
      rw [Function.iterate_succ_apply,
        (effectiveParent_of_child (List.mem_of_getElem? child)).2]
      exact back

/-- A path leads to the root and to each function that was called and comes to the root by the nodes
above, by induction on their number.
-/
theorem exists_path_of_steps (filled : mapping ≠ []) {node steps : Nat}
    (inside : node < nodeCount mapping functions) (called : node = 0 ∨ mapping.getD node 0 ≠ 0)
    (back : (effectiveParent mapping (nodeCount mapping functions))^[steps] node = 0)
    : ∃ path, (ofMapping mapping functions).follow? 0 path = some node := by
  induction steps generalizing node with
  | zero => exact ⟨[], congrArg some back.symm⟩
  | succ steps ih =>
      rcases Nat.eq_zero_or_pos node with rfl | positive
      · exact ⟨[], rfl⟩
      · have function := Nat.ne_of_gt positive
        have outer := effectiveParent_lt mapping (nodeCount_pos filled functions) node
        rw [Function.iterate_succ_apply] at back
        obtain ⟨path, leads⟩ := ih outer (effectiveParent_called mapping _ node) back
        have attached : (parents mapping (nodeCount mapping functions))[node]?
            = some (some (effectiveParent mapping (nodeCount mapping functions) node)) := by
          rw [getElem?_parents, if_pos inside,
            parent?_of_called function (called.resolve_left function)]
        exact exists_path_of_child leads (child_of_attached filled leads attached)

/-- A function is reachable just when it was called and the nodes above lead to the root. -/
theorem exists_path_iff (filled : mapping ≠ []) {number : Nat} (function : number ≠ 0)
    (inside : number < nodeCount mapping functions)
    : (∃ path, (ofMapping mapping functions).follow? 0 path = some number)
      ↔ mapping.getD number 0 ≠ 0
        ∧ ∃ steps, (effectiveParent mapping (nodeCount mapping functions))^[steps] number = 0 := by
  constructor
  · rintro ⟨path, leads⟩
    refine ⟨?_, exists_steps_of_path leads⟩
    rcases List.eq_nil_or_concat' path with rfl | ⟨front, position, rfl⟩
    · exact absurd (Option.some.inj leads).symm function
    · obtain ⟨above, -, child⟩ := follow?_concat_eq_some.mp leads
      exact (effectiveParent_of_child (List.mem_of_getElem? child)).1
  · rintro ⟨called, steps, back⟩
    exact exists_path_of_steps filled inside (.inr called) back

/-- A path leads to each node that is reached. -/
theorem exists_path_of_reached (filled : mapping ≠ [])
    : ∀ node ∈ reachedNodes (parents mapping (nodeCount mapping functions)),
        ∃ path, (ofMapping mapping functions).follow? 0 path = some node := by
  refine levelOrder_forall ?_ ?_
  · intro start member
    obtain rfl : start = 0 := by simpa using member
    exact ⟨[], rfl⟩
  · rintro above ⟨path, leads⟩ node hangs
    exact exists_path_of_child leads (child_of_attached filled leads (mem_attached.mp hangs))

/-- Nodes that no path leads to have no children. -/
theorem children_of_no_path (filled : mapping ≠ []) {number : Nat}
    (elsewhere : ∀ path, (ofMapping mapping functions).follow? 0 path ≠ some number)
    : (ofMapping mapping functions).children number = [] := by
  rw [children_ofMapping, if_neg]
  rintro ⟨-, reached⟩
  obtain ⟨path, leads⟩ := exists_path_of_reached filled number reached
  exact elsewhere path leads

/-- Whatever a mapping of 32-bit length records, a tree is built. Each of its nodes is at most
once a child, and the root not at all; a function is reachable just when it was called and comes
to the root by the nodes above; levels are depths, and what is not reachable has no children.
-/
theorem build_total (mapping : List Nat) (functions : List String) (filled : mapping ≠ [])
    (short : mapping.length < UInt32.size)
    : let count := nodeCount mapping functions
      ∃ tree,
        build? mapping functions = some tree
        ∧ tree.nodes.length = count
        ∧ tree.Grown
        ∧ (∀ number,
            0 < number
            → number < count
            → ((∃ path, tree.follow? 0 path = some number)
                ↔ mapping.getD number 0 ≠ 0
                  ∧ ∃ steps, (effectiveParent mapping count)^[steps] number = 0))
        ∧ (∀ number path, tree.follow? 0 path = some number → tree.level number = path.length)
        ∧ ∀ number, (∀ path, tree.follow? 0 path ≠ some number) → tree.children number = [] := by
  intro count
  have built : build? mapping functions = some (ofMapping mapping functions) := by
    rcases build?_cases filled functions with described | ⟨-, large⟩
    · exact described
    · have fewer : nodeCount mapping functions ≤ mapping.length := Nat.min_le_left _ _
      omega
  refine ⟨ofMapping mapping functions, built, length_nodes_ofMapping mapping functions,
    grown_ofMapping mapping functions, ?_, ?_, ?_⟩
  · intro number positive inside
    exact exists_path_iff filled (Nat.ne_of_gt positive) inside
  · exact fun number path leads => (layered_ofMapping filled functions).level_of_path leads
  · exact fun number elsewhere => children_of_no_path filled elsewhere

/-- The first and the second of six functions call each other, and the third one is called by the
first. The fourth one calls itself, the fifth one was called by a function without a name; both
are taken to be called from outside, so that the sixth one, which the fourth one calls, is
reachable.
-/
theorem sample_build_total
    : let mapping := [7, 2, 1, 1, 4, 9, 4]
      let functions := ["a", "b", "c", "d", "e", "f"]
      mapping ≠ []
      ∧ mapping.length < UInt32.size
      ∧ ∃ tree,
          build? mapping functions = some tree
          ∧ (∃ path, path.length = 2 ∧ tree.follow? 0 path = some 6)
          ∧ tree.level 6 = 2
          ∧ (∀ path, tree.follow? 0 path ≠ some 3)
          ∧ tree.children 1 = [] := by
  intro mapping functions
  obtain ⟨tree, built, -, -, reachable, levels, pruned⟩ :=
    build_total mapping functions (by decide) (by decide)
  -- Whoever is above a function of the circle belongs to it.
  have circle (number : Nat) (member : number = 1 ∨ number = 2 ∨ number = 3) (steps : Nat)
      : (effectiveParent mapping 7)^[steps] number ≠ 0 := by
    induction steps generalizing number with
    | zero =>
        rcases member with rfl | rfl | rfl <;> decide
    | succ steps ih =>
        rw [Function.iterate_succ_apply]
        rcases member with rfl | rfl | rfl
        · exact ih 2 (by decide)
        · exact ih 1 (by decide)
        · exact ih 1 (by decide)
  have elsewhere (number : Nat) (member : number = 1 ∨ number = 2 ∨ number = 3) (path : List Nat)
      : tree.follow? 0 path ≠ some number := by
    intro leads
    have count : nodeCount mapping functions = 7 := by decide
    obtain ⟨-, steps, back⟩ := (reachable number (by omega) (by omega)).mp ⟨path, leads⟩
    exact circle number member steps back
  obtain ⟨path, leads⟩ := (reachable 6 (by decide) (by decide)).mpr ⟨by decide, 2, by decide⟩
  have concrete : build? mapping functions = some (ofMapping mapping functions) := by decide
  obtain rfl : ofMapping mapping functions = tree := Option.some.inj (concrete.symm.trans built)
  have level : (ofMapping mapping functions).level 6 = 2 := by decide
  refine ⟨by decide, by decide, _, built, ⟨path, ?_, leads⟩, level, elsewhere 3 (by decide), ?_⟩
  · rw [← levels 6 path leads, level]
  · exact pruned 1 (elsewhere 1 (by decide))

/-- The nodes above do not suffice to tell which functions are reachable: the root is above a
function that was never called, which is not attached to anything.
-/
theorem not_reachable_by_effectiveParents
    : ¬ ∀ (mapping : List Nat) (functions : List String),
        mapping ≠ []
        → mapping.length < UInt32.size
        → let count := nodeCount mapping functions
          ∃ tree,
            build? mapping functions = some tree
            ∧ ∀ number,
                0 < number
                → number < count
                → ((∃ path, tree.follow? 0 path = some number)
                    ↔ ∃ steps, (effectiveParent mapping count)^[steps] number = 0) := by
  intro reachable
  obtain ⟨tree, built, paths⟩ := reachable [0, 0] ["a"] (by decide) (by decide)
  obtain ⟨filled, rfl⟩ := eq_ofMapping_of_build? built
  have path := (paths 1 (by decide) (by decide)).mpr ⟨1, by decide⟩
  exact absurd ((exists_path_iff filled (by decide) (by decide)).mp path).1 (by decide)

end MutationTesting.CallTree
