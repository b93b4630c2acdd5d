import MutationTesting.Proofs.Recording.CallTree
import MutationTesting.Proofs.Recording.QueueLoop

/-! Levels of the tree that a mapping describes. Each child lies one level below its node, also
where it is not asked for: nodes that are not reached have no children. Hence a level is the
length of a path, no node lies below itself, and a queue that starts at any node meets no node
twice.
-/

namespace MutationTesting.CallTree

-----------------------------------------------------------------------------------------
-- Depths of attached nodes
-----------------------------------------------------------------------------------------

section

variable {parents : List (Option Nat)} {above node : Nat}

/-- An entry is found by its number where no other entry has the same. -/
theorem lookup_of_unique {entries : List (Nat × Nat)} (unique : (entries.map Prod.fst).Nodup)
    {level : Nat} (member : (node, level) ∈ entries)
    : entries.lookup node = some level := by
  induction entries with
  | nil => cases member
  | cons first rest ih =>
      rw [List.map_cons, List.nodup_cons] at unique
      rcases List.mem_cons.mp member with rfl | later
      · rw [List.lookup_cons, beq_self_eq_true]
      · have other : node ≠ first.1 := by
          rintro rfl
          exact unique.1 (List.mem_map.mpr ⟨_, later, rfl⟩)
        rw [List.lookup_cons, beq_false_of_ne other]
        exact ih unique.2 later

/-- The depth at which a node is reached from the root; zero if it is not. -/
def depth (parents : List (Option Nat)) (node : Nat) : Nat :=
  ((reached parents).lookup node).getD 0

/-- No node is reached twice. -/
theorem nodup_reachedNodes (root : parents[0]? = some none) : (reachedNodes parents).Nodup := by
  obtain ⟨unique, -⟩ := (frontier_root root).complete (branching_attached parents)
  exact unique

/-- The depth of a node is the one that it is reached with. -/
theorem depth_of_reached (root : parents[0]? = some none) {level : Nat}
    (reached : (node, level) ∈ reached parents)
    : depth parents node = level := by
  have unique : ((CallTree.reached parents).map Prod.fst).Nodup := by
    rw [map_fst_reached]
    exact nodup_reachedNodes root
  rw [depth, lookup_of_unique unique reached]
  rfl

theorem depth_of_not_reached (elsewhere : node ∉ reachedNodes parents)
    : depth parents node = 0 := by
  have nowhere : (reached parents).lookup node = none := by
    rw [List.lookup_eq_none_iff]
    intro entry member
    refine bne_iff_ne.mpr ?_
    rintro rfl
    apply elsewhere
    rw [← map_fst_reached]
    exact List.mem_map_of_mem member
  rw [depth, nowhere]
  rfl

/-- The root is reached first, and each node that is attached is reached one level below. -/
theorem reached_closed (root : parents[0]? = some none)
    : (0, 0) ∈ reached parents
      ∧ ∀ entry ∈ reached parents,
          ∀ node ∈ attached parents entry.1, (node, entry.2 + 1) ∈ reached parents := by
  have same (entry : Nat × Nat)
      : ((attached parents entry.1).map (·, entry.2 + 1)).map Prod.fst
        = attached parents entry.1 := by
    rw [List.map_map]
    exact List.map_id _
  have start : Frontier (attached parents) (List.range parents.length) []
      ([(0, 0)].map Prod.fst) parents.length :=
    frontier_root root
  obtain ⟨first, closed⟩ := start.complete_view (branching_attached parents) same
  refine ⟨first (List.mem_singleton_self _), fun entry member node hangs => ?_⟩
  exact closed entry member (List.mem_map_of_mem hangs)

theorem depth_root (root : parents[0]? = some none) : depth parents 0 = 0 :=
  depth_of_reached root (reached_closed root).1

theorem depth_attached (root : parents[0]? = some none) (reached : above ∈ reachedNodes parents)
    (hangs : node ∈ attached parents above)
    : depth parents node = depth parents above + 1 := by
  rw [← map_fst_reached] at reached
  obtain ⟨⟨number, level⟩, member, rfl⟩ := List.mem_map.mp reached
  rw [depth_of_reached root ((reached_closed root).2 _ member node hangs),
    depth_of_reached root member]

end

-----------------------------------------------------------------------------------------
-- Trees in layers
-----------------------------------------------------------------------------------------

/-- The root is a node on level zero, and each child is a node one level below. -/
structure Layered (tree : CallTree) : Prop where
  filled : 0 < tree.nodes.length
  root : tree.level 0 = 0
  inside : ∀ above node, node ∈ tree.children above → node < tree.nodes.length
  next : ∀ above node, node ∈ tree.children above → tree.level node = tree.level above + 1

/-- The node of a number that is small enough, with what is known of it by its number. -/
theorem exists_node {tree : CallTree} {number : Nat} (inside : number < tree.nodes.length)
    : ∃ node,
        tree.nodes[number]? = some node
        ∧ tree.function? number = node.function
        ∧ tree.level number = node.level
        ∧ tree.children number = node.children := by
  refine ⟨tree.nodes[number], List.getElem?_eq_getElem inside, ?_, ?_, ?_⟩
  · simp [function?, List.getElem?_eq_getElem inside]
  · simp [level, List.getElem?_eq_getElem inside]
  · simp [children, List.getElem?_eq_getElem inside]

section

variable {mapping : List Nat} {functions : List String}

@[simp] theorem length_nodes_ofMapping (mapping : List Nat) (functions : List String)
    : (ofMapping mapping functions).nodes.length = nodeCount mapping functions := by
  simp [ofMapping, nodeCount]

theorem level_ofMapping {number : Nat} (inside : number < nodeCount mapping functions)
    : (ofMapping mapping functions).level number
      = depth (parents mapping (nodeCount mapping functions)) number := by
  have listed : (ofMapping mapping functions).nodes
      = (List.range (nodeCount mapping functions)).map
          (CallTree.node (parents mapping (nodeCount mapping functions))
            (reached (parents mapping (nodeCount mapping functions))) functions) :=
    rfl
  unfold level
  rw [listed, List.getElem?_map, List.getElem?_range inside]
  rfl

/-- The tree of a mapping is in layers: only nodes that are reached have children. -/
theorem layered_ofMapping (filled : mapping ≠ []) (functions : List String)
    : (ofMapping mapping functions).Layered := by
  have root := root_attached filled functions
  have nodes := nodeCount_pos filled functions
  have below {above node : Nat} (child : node ∈ (ofMapping mapping functions).children above)
      : above < nodeCount mapping functions
        ∧ node < nodeCount mapping functions
        ∧ depth (parents mapping (nodeCount mapping functions)) node
          = depth (parents mapping (nodeCount mapping functions)) above + 1 := by
    have hangs := attached_of_child child
    rw [children_ofMapping] at child
    split at child
    · rename_i reached
      have size := (List.getElem?_eq_some_iff.mp hangs).1
      rw [length_parents] at size
      exact ⟨reached.1, size, depth_attached root reached.2 child⟩
    · simp at child
  refine {
    filled := by simpa using nodes
    root := ?_
    inside := ?_
    next := ?_
  }
  · rw [level_ofMapping nodes]
    exact depth_root root
  · intro above node child
    rw [length_nodes_ofMapping]
    exact (below child).2.1
  · intro above node child
    obtain ⟨outer, inner, depths⟩ := below child
    rw [level_ofMapping outer, level_ofMapping inner, depths]

end

section

variable {tree : CallTree}

/-- A node lies as many levels below another one as each path between them has positions, by
induction on the path from its last position on.
-/
theorem Layered.level_of_follow (layered : tree.Layered) {start node : Nat} {path : List Nat}
    (leads : tree.follow? start path = some node)
    : tree.level node = tree.level start + path.length := by
  induction path using List.reverseRecOn generalizing node with
  | nil =>
      obtain rfl : start = node := Option.some.inj leads
      rfl
  | append_singleton front position ih =>
      obtain ⟨above, first, child⟩ := follow?_concat_eq_some.mp leads
      rw [layered.next above node (List.mem_of_getElem? child), ih first, List.length_append]
      rfl

/-- The level of a node is the length of each path that leads to it. -/
theorem Layered.level_of_path (layered : tree.Layered) {node : Nat} {path : List Nat}
    (leads : tree.follow? 0 path = some node)
    : tree.level node = path.length := by
  rw [layered.level_of_follow leads, layered.root, Nat.zero_add]

theorem Grown.nodup_children (grown : tree.Grown) (above : Nat) : (tree.children above).Nodup := by
  rw [List.nodup_iff_getElem?_ne_getElem?]
  intro first second before inside same
  have there := List.getElem?_eq_getElem inside
  obtain ⟨-, equal⟩ := grown.once _ above above first second (same.trans there) there
  omega

/-- A node and all nodes on deeper levels than its own. -/
def deeper (tree : CallTree) (start : Nat) : List Nat :=
  (List.range tree.nodes.length).filter fun node =>
    node = start ∨ tree.level start < tree.level node

theorem mem_deeper {start node : Nat}
    : node ∈ tree.deeper start
      ↔ node < tree.nodes.length ∧ (node = start ∨ tree.level start < tree.level node) := by
  simp [deeper]

/-- What a walk goes on to from a node is among its children. -/
def WithinChildren (tree : CallTree) (expand : Nat → List Nat) : Prop :=
  ∀ node, (expand node).Sublist (tree.children node)

variable {expand : Nat → List Nat}

/-- A walk that goes on to children only meets no node in two ways. -/
theorem Grown.branching (grown : tree.Grown) (layered : tree.Layered)
    (within : tree.WithinChildren expand) (start : Nat)
    : Branching expand (tree.deeper start) where
  closed above known node member := by
    have child := (within above).subset member
    have level := layered.next above node child
    refine mem_deeper.mpr ⟨layered.inside above node child, .inr ?_⟩
    rcases (mem_deeper.mp known).2 with rfl | lower
    · omega
    · omega
  distinct above _ := (within above).nodup (grown.nodup_children above)
  apart node above other _ _ left right := by
    obtain ⟨position, first⟩ := List.mem_iff_getElem?.mp ((within above).subset left)
    obtain ⟨place, second⟩ := List.mem_iff_getElem?.mp ((within other).subset right)
    exact (grown.once node above other position place first second).1

/-- A walk may start at any node: nothing on the same level or a deeper one leads to it. -/
theorem Layered.frontier (layered : tree.Layered) (within : tree.WithinChildren expand)
    {start : Nat} (inside : start < tree.nodes.length)
    : Frontier expand (tree.deeper start) [] [start] tree.nodes.length where
  known := by
    intro node member
    obtain rfl : node = start := by simpa using member
    exact mem_deeper.mpr ⟨inside, .inl rfl⟩
  unique := List.nodup_singleton start
  introduced node member above known leads := by
    obtain rfl : node = start := by simpa using member
    have level := layered.next above node ((within above).subset leads)
    rcases (mem_deeper.mp known).2 with rfl | lower
    · omega
    · omega
  budget := by
    refine Nat.le_trans (List.length_filter_le _ _) ?_
    simp

end

end MutationTesting.CallTree
