import MutationTesting.Proofs.Recording.TreeLevels
import MutationTesting.Recording.TreeBuilding

/-! Building a tree in passes comes to the tree that the mapping describes, whatever the mapping:
no look-up fails and no level gets too large, so that a tree is built. It has every function that
leads to the root, by following callers, on a level of its own depth, and cuts off all others.
-/

namespace MutationTesting

-----------------------------------------------------------------------------------------
-- Lists by number
-----------------------------------------------------------------------------------------

/-- The list of the entries of the numbers below a count. -/
def table (count : Nat) (entry : Nat → α) : List α := (List.range count).map entry

section

variable {count : Nat} {entry : Nat → α}

@[simp] theorem length_table : (table count entry).length = count := by
  simp [table]

theorem getElem?_table {number : Nat} (inside : number < count)
    : (table count entry)[number]? = some (entry number) := by
  simp [table, inside]

theorem table_congr {other : Nat → α} (same : ∀ number < count, entry number = other number)
    : table count entry = table count other :=
  List.map_congr_left fun number member => same number (List.mem_range.mp member)

theorem replaceAt?_table {number : Nat} (inside : number < count) (item : α)
    : replaceAt? (table count entry) number item
      = some (table count (Function.update entry number item)) := by
  rw [replaceAt?, length_table, if_pos inside]
  congr 1
  refine List.ext_getElem? fun place => ?_
  rw [List.getElem?_set]
  rcases Nat.lt_or_ge place count with known | beyond
  · rw [getElem?_table known, getElem?_table known, Function.update_apply]
    by_cases same : number = place
    · simp [same, known]
    · simp [same, Ne.symm same]
  · have other : number ≠ place := by omega
    simp [table, other, beyond]

theorem mapM_table {convert : α → Option β} {result : Nat → β}
    (same : ∀ number < count, convert (entry number) = some (result number))
    : (table count entry).mapM convert = some (table count result) := by
  induction count with
  | zero => rfl
  | succ count ih =>
      have front := ih fun number before => same number (Nat.lt_succ_of_lt before)
      unfold table at front ⊢
      simp only [List.range_succ, List.map_append, List.mapM_append, front]
      simp [same count (Nat.lt_succ_self count)]

end

theorem getElem?_eq_some_getD {items : List Nat} {place : Nat} (inside : place < items.length)
    : items[place]? = some (items.getD place 0) := by
  simp [inside]

theorem filterM_eq_some {keep? : Nat → Option Bool} {keep : Nat → Bool} {items : List Nat}
    (same : ∀ item ∈ items, keep? item = some (keep item))
    : items.filterM keep? = some (items.filter keep) := by
  have aux (kept : List Nat)
      : List.filterAuxM keep? items kept = some ((items.filter keep).reverse ++ kept) := by
    induction items generalizing kept with
    | nil => rfl
    | cons item rest ih =>
        have others := ih fun other member => same other (List.mem_cons_of_mem item member)
        rw [List.filterAuxM, same item List.mem_cons_self]
        cases keeps : keep item <;> simp [keeps, others]
  rw [List.filterM, aux]
  simp

namespace CallTree

-----------------------------------------------------------------------------------------
-- Attaching functions
-----------------------------------------------------------------------------------------

/-- What one more node that hangs somewhere adds to the children of a node. -/
theorem attached_concat (parents : List (Option Nat)) (parent : Option Nat) (above : Nat)
    : attached (parents ++ [parent]) above
      = attached parents above ++ if parent = some above then [parents.length] else [] := by
  unfold attached
  rw [List.zipIdx_append, List.filterMap_append]
  by_cases here : parent = some above <;> simp [here]

/-- The node of a number with what is attached to it. -/
def attachedNode (parents : List (Option Nat)) (functions : List String) (number : Nat)
    : CallNode :=
  {
    function := if number = 0 then none else functions[number - 1]?
    level := 0
    children := attached parents number
  }

section

variable {mapping : List Nat} {functions : List String} {count : Nat}

theorem bareNode?_eq {number : Nat} (named : number < functions.length + 1)
    : bareNode? functions number = some (attachedNode [] functions number) := by
  unfold bareNode? attachedNode
  by_cases root : number = 0
  · simp [root, attached]
  · have inside : number - 1 < functions.length := by omega
    simp [root, inside, attached]

/-- The node above a function, as the mapping gives it whether the function was called or not: the
root if the function was called from outside or its caller is not among the nodes or was not
called, and its caller otherwise.
-/
def effectiveParent (mapping : List Nat) (count number : Nat) : Nat :=
  let noted := mapping.getD number 0
  if noted = number ∨ count ≤ noted ∨ mapping.getD noted 0 = 0 then 0 else noted

theorem parent?_of_called {number : Nat} (function : number ≠ 0)
    (called : mapping.getD number 0 ≠ 0)
    : parent? mapping count number = some (effectiveParent mapping count number) := by
  unfold parent? effectiveParent
  dsimp only
  rw [if_neg (not_or.mpr ⟨function, called⟩)]
  split <;> rfl

theorem effectiveParent_lt (mapping : List Nat) (filled : 0 < count) (number : Nat)
    : effectiveParent mapping count number < count := by
  unfold effectiveParent
  dsimp only
  split
  · exact filled
  · rename_i inside
    omega

theorem place?_eq (short : count ≤ mapping.length) (number : Nat)
    : place? mapping count number (mapping.getD number 0)
      = some (effectiveParent mapping count number) := by
  unfold place? effectiveParent
  dsimp only
  generalize mapping.getD number 0 = noted
  by_cases outside : noted = number ∨ count ≤ noted
  · rw [if_pos outside, if_pos (outside.imp_right .inl)]
  · have known : noted < mapping.length := by omega
    rw [if_neg outside, getElem?_eq_some_getD known, Option.bind_eq_bind, Option.bind_some]
    rw [not_or] at outside
    simp only [outside.1, outside.2, false_or]

/-- The nodes with the functions below a number attached. -/
def attachedUpTo (mapping : List Nat) (functions : List String) (count number : Nat)
    : List CallNode :=
  table count (attachedNode ((List.range number).map (parent? mapping count)) functions)

/-- Attaching one more function. -/
theorem attach?_next (short : count ≤ mapping.length) {number : Nat} (function : number ≠ 0)
    (inside : number < count)
    : attach? mapping (attachedUpTo mapping functions count number) number
      = some (attachedUpTo mapping functions count (number + 1)) := by
  have noted : mapping[number]? = some (mapping.getD number 0) :=
    getElem?_eq_some_getD (Nat.lt_of_lt_of_le inside short)
  have next (above : Nat)
      : attached ((List.range (number + 1)).map (parent? mapping count)) above
        = attached ((List.range number).map (parent? mapping count)) above
          ++ if parent? mapping count number = some above then [number] else [] := by
    rw [List.range_succ, List.map_append, List.map_singleton, attached_concat]
    simp
  unfold attach?
  rw [noted, Option.bind_eq_bind, Option.bind_some]
  by_cases uncalled : mapping.getD number 0 = 0
  · have nowhere : parent? mapping count number = none := if_pos (.inr uncalled)
    rw [if_pos uncalled]
    refine congrArg some (table_congr fun other _ => ?_)
    unfold attachedNode
    rw [next, nowhere]
    simp
  · have placed := effectiveParent_lt mapping (Nat.zero_lt_of_lt inside) number
    rw [if_neg uncalled, attachedUpTo, length_table, place?_eq short, Option.bind_eq_bind,
      Option.bind_some, getElem?_table placed, Option.bind_some, replaceAt?_table placed]
    refine congrArg some (table_congr fun other _ => ?_)
    rw [Function.update_apply]
    simp only [attachedNode, next, parent?_of_called function uncalled, Option.some.injEq]
    by_cases here : other = effectiveParent mapping count number
    · simp [here]
    · simp [here, Ne.symm here]

/-- All functions get attached, by induction on their number. -/
theorem foldlM_attach? (short : count ≤ mapping.length) (number : Nat) (inside : number < count)
    : (List.range' 1 number).foldlM (attach? mapping)
        (table count (attachedNode [] functions))
      = some (attachedUpTo mapping functions count (number + 1)) := by
  induction number with
  | zero =>
      have root : (List.range 1).map (parent? mapping count) = [none] := by
        simp [List.range_succ, parent?_root]
      unfold attachedUpTo
      rw [root]
      rfl
  | succ number ih =>
      rw [List.range'_1_concat, List.foldlM_append, ih (by omega), Nat.add_comm 1 number]
      simp [attach?_next short (Nat.succ_ne_zero number) inside]

end

-----------------------------------------------------------------------------------------
-- Giving levels
-----------------------------------------------------------------------------------------

/-- The state in which the given nodes have been visited, each with its level. -/
def descentAt (parents : List (Option Nat)) (functions : List String) (met : List Nat) : Descent :=
  {
    nodes :=
      table parents.length fun number =>
        {
          attachedNode parents functions number with
          level := if number ∈ met then depth parents number else 0
        }
    visited := table parents.length fun number => decide (number ∈ met)
  }

section

variable {parents : List (Option Nat)} {functions : List String}

/-- A new child is visited if there is room for its level. -/
theorem visitChild?_new {level child : Nat} {met : List Nat} (inside : child < parents.length)
    (new : child ∉ met) (deeper : depth parents child = level + 1) (found : List Nat)
    : visitChild? level (found, descentAt parents functions met) child
      = if level + 1 < UInt32.size then
          some (found ++ [child], descentAt parents functions (met ++ [child]))
        else
          none := by
  unfold visitChild?
  simp only [descentAt, getElem?_table inside, Option.bind_eq_bind, Option.bind_some, new,
    decide_false, Bool.false_eq_true, if_false, replaceAt?_table inside, nextLevel?]
  by_cases room : level + 1 < UInt32.size
  · rw [if_pos room, if_pos room, Option.bind_some]
    congr 3
    · refine table_congr fun other _ => ?_
      rw [Function.update_apply]
      by_cases same : other = child
      · simp [same, deeper]
      · simp [same]
    · refine table_congr fun other _ => ?_
      rw [Function.update_apply]
      by_cases same : other = child
      · simp [same]
      · simp [same]
  · rw [if_neg room, if_neg room]
    rfl

/-- All children of a node are visited if there is room for their level, by induction on them. -/
theorem foldlM_visitChild? {level : Nat} {children met : List Nat}
    (inside : ∀ child ∈ children, child < parents.length) (new : (met ++ children).Nodup)
    (deeper : ∀ child ∈ children, depth parents child = level + 1) (found : List Nat)
    : children.foldlM (visitChild? level) (found, descentAt parents functions met)
      = if children = [] ∨ level + 1 < UInt32.size then
          some (found ++ children, descentAt parents functions (met ++ children))
        else
          none := by
  induction children generalizing met found with
  | nil => simp
  | cons child rest ih =>
      have fresh : child ∉ met := fun member =>
        (List.nodup_append.mp new).2.2 child member child List.mem_cons_self rfl
      rw [List.append_cons] at new
      rw [List.foldlM_cons, visitChild?_new (inside child List.mem_cons_self) fresh
        (deeper child List.mem_cons_self)]
      by_cases room : level + 1 < UInt32.size
      · have others := ih (fun other member => inside other (List.mem_cons_of_mem child member)) new
          (fun other member => deeper other (List.mem_cons_of_mem child member)) (found ++ [child])
        rw [if_pos room, Option.bind_eq_bind, Option.bind_some, others]
        simp [room]
      · rw [if_neg room]
        simp [room]

/-- What holds while levels are given: the nodes that were handled or queued have been visited, and
none of them lies deeper than the number of those that were handled.
-/
def LevelsGiven (parents : List (Option Nat)) (functions : List String) (handled queue : List Nat)
    (descent : Descent)
    : Prop :=
  descent = descentAt parents functions (handled ++ queue)
  ∧ ∀ node ∈ handled ++ queue, node ∈ reachedNodes parents ∧ depth parents node ≤ handled.length

/-- Levels are given along the walk from the root. There may be no room for a level only if there
are more nodes than 32-bit numbers.
-/
theorem descend?_along (root : parents[0]? = some none)
    : HandlesAlong (attached parents) (List.range parents.length) descend?
        (LevelsGiven parents functions) (UInt32.size < parents.length) := by
  rintro handled item queue budget descent frontier ⟨rfl, levels⟩
  have next := frontier.next (branching_attached parents)
  have whole : handled ++ [item] ++ (queue ++ attached parents item)
      = handled ++ item :: queue ++ attached parents item := by
    simp
  have met : item ∈ handled ++ item :: queue := by simp
  have inside : item < parents.length := List.mem_range.mp (frontier.known met)
  obtain ⟨reached, shallow⟩ := levels item met
  have children : ∀ child ∈ attached parents item, child < parents.length := fun child member =>
    List.mem_range.mp ((branching_attached parents).closed item (frontier.known met) member)
  have deeper : ∀ child ∈ attached parents item, depth parents child = depth parents item + 1 :=
    fun child member => depth_attached root reached member
  have unique := next.unique
  rw [whole] at unique
  have visits : descend? item (descentAt parents functions (handled ++ item :: queue))
      = if attached parents item = [] ∨ depth parents item + 1 < UInt32.size then
          some (attached parents item,
            descentAt parents functions (handled ++ [item] ++ (queue ++ attached parents item)))
        else
          none := by
    have here : (descentAt parents functions (handled ++ item :: queue)).nodes[item]?
        = some {
            attachedNode parents functions item with
            level := depth parents item
          } := by
      simp [descentAt, getElem?_table inside]
    rw [descend?, here, Option.bind_eq_bind, Option.bind_some]
    change (attached parents item).foldlM (visitChild? (depth parents item)) _ = _
    rw [foldlM_visitChild? children unique deeper, whole, List.nil_append]
  by_cases room : attached parents item = [] ∨ depth parents item + 1 < UInt32.size
  · refine .inl ⟨_, visits.trans (if_pos room), rfl, fun node member => ?_⟩
    rw [whole] at member
    rw [List.length_append, List.length_singleton]
    rcases List.mem_append.mp member with before | child
    · obtain ⟨known, level⟩ := levels node before
      exact ⟨known, Nat.le_succ_of_le level⟩
    · rw [deeper node child]
      exact ⟨(reachedNodes_closed root).2.2 item reached child, Nat.succ_le_succ shallow⟩
  · refine .inr ⟨visits.trans (if_neg room), ?_⟩
    -- All that was handled and one more child are different nodes, more than there is room for.
    rw [not_or, Nat.not_lt] at room
    have filled := List.length_pos_iff.mpr room.1
    have size := unique.length_le_of_subset (whole ▸ next.known)
    simp only [List.length_append, List.length_cons, List.length_range] at size
    omega

/-- Levels are given to all nodes that are reached, unless there are more nodes than 32-bit
numbers.
-/
theorem drain_descend? (functions : List String) (root : parents[0]? = some none)
    : drain descend? parents.length [0] (descentAt parents functions [0])
        = some (reachedNodes parents, descentAt parents functions (reachedNodes parents))
      ∨ drain descend? parents.length [0] (descentAt parents functions [0]) = none
        ∧ UInt32.size < parents.length := by
  have start : LevelsGiven parents functions [] [0] (descentAt parents functions [0]) := by
    refine ⟨rfl, fun node member => ?_⟩
    obtain rfl : node = 0 := by simpa using member
    exact ⟨(reachedNodes_closed root).2.1, Nat.le_of_eq (depth_root root)⟩
  rcases (frontier_root root).drain_cases (branching_attached parents) (descend?_along root) start
    with ⟨last, ends, given, -⟩ | stuck
  · rw [List.nil_append, List.append_nil] at given
    exact .inl (given ▸ ends)
  · exact .inr stuck

end

-----------------------------------------------------------------------------------------
-- Cutting off what was not visited
-----------------------------------------------------------------------------------------

section

variable {parents : List (Option Nat)} {functions : List String}

/-- What is attached to a node is reached just where the node is. -/
theorem reached_attached (root : parents[0]? = some none) {above node : Nat}
    (hangs : node ∈ attached parents above)
    : node ∈ reachedNodes parents ↔ above ∈ reachedNodes parents := by
  constructor
  · intro reached
    rcases levelOrder_origin reached with start | ⟨other, outer, leads⟩
    · obtain rfl : node = 0 := by simpa using start
      rw [mem_attached, root] at hangs
      simp at hangs
    · have same := (mem_attached.mp leads).symm.trans (mem_attached.mp hangs)
      rwa [Option.some.inj (Option.some.inj same)] at outer
  · intro outer
    exact (reachedNodes_closed root).2.2 above outer hangs

/-- Cutting off what was not visited leaves the nodes of the tree that the mapping describes. -/
theorem mapM_prune? (root : parents[0]? = some none)
    : let descent := descentAt parents functions (reachedNodes parents)
      descent.nodes.mapM (prune? descent.visited)
        = some (table parents.length (node parents (reached parents) functions)) := by
  refine mapM_table fun number inside => ?_
  have kept : (attached parents number).filterM
        ((table parents.length fun number => decide (number ∈ reachedNodes parents))[·]?)
      = some ((attached parents number).filter (decide <| · ∈ reachedNodes parents)) := by
    refine filterM_eq_some fun child member => ?_
    have known := (branching_attached parents).closed number (List.mem_range.mpr inside) member
    exact getElem?_table (List.mem_range.mp known)
  have level : (if number ∈ reachedNodes parents then depth parents number else 0)
      = depth parents number := by
    split
    · rfl
    · rename_i elsewhere
      exact (depth_of_not_reached elsewhere).symm
  have children : (attached parents number).filter (decide <| · ∈ reachedNodes parents)
      = if ((reached parents).lookup number).isSome then attached parents number else [] := by
    by_cases reached : number ∈ reachedNodes parents
    · rw [if_pos (lookup_reached_isSome.mpr reached), List.filter_eq_self]
      exact fun child member => decide_eq_true ((reached_attached root member).mpr reached)
    · rw [if_neg (lookup_reached_isSome.not.mpr reached), List.filter_eq_nil_iff]
      exact fun child member =>
        (reached_attached root member).not.mpr reached ∘ of_decide_eq_true
  unfold prune?
  simp only [descentAt, attachedNode, kept, level, children]
  rfl

end

-----------------------------------------------------------------------------------------
-- Trees that are built
-----------------------------------------------------------------------------------------

variable {mapping : List Nat} {functions : List String} {count : Nat}

@[simp] theorem build?_nil (functions : List String) : build? [] functions = none := by
  simp [build?, replaceAt?]

/-- There is a bare node for each number. -/
theorem mapM_bareNode? (named : count ≤ functions.length + 1)
    : (List.range count).mapM (bareNode? functions)
      = some (table count (attachedNode [] functions)) := by
  have numbers : List.range count = table count id := (List.map_id _).symm
  rw [numbers]
  exact mapM_table fun number inside => bareNode?_eq (Nat.lt_of_lt_of_le inside named)

/-- Levels are given from the nodes with all functions attached. -/
theorem foldlM_attach?_all (functions : List String) (short : count ≤ mapping.length)
    (root : (parents mapping count)[0]? = some none)
    : (List.range' 1 (count - 1)).foldlM (attach? mapping) (table count (attachedNode [] functions))
      = some (descentAt (parents mapping count) functions [0]).nodes := by
  have filled : 0 < count := by simpa using (List.getElem?_eq_some_iff.mp root).1
  have level (number : Nat)
      : (if number ∈ [0] then depth (parents mapping count) number else 0) = 0 := by
    split
    · rename_i start
      obtain rfl : number = 0 := by simpa using start
      exact depth_root root
    · rfl
  rw [foldlM_attach? short _ (Nat.sub_lt filled Nat.one_pos), Nat.sub_add_cancel filled,
    attachedUpTo, descentAt, length_parents]
  refine congrArg some (table_congr fun number _ => ?_)
  rw [level]
  rfl

/-- Only the root has been visited when levels are given. -/
theorem replaceAt?_unvisited (mapping : List Nat) (functions : List String) (filled : 0 < count)
    : replaceAt? (List.replicate count false) 0 true
      = some (descentAt (parents mapping count) functions [0]).visited := by
  have blank : List.replicate count false = table count fun _ => false := by
    simp [table]
  rw [blank, replaceAt?_table filled, descentAt, length_parents]
  refine congrArg some (table_congr fun number _ => ?_)
  by_cases start : number = 0 <;> simp [start]

/-- All functions get attached, so that giving levels and cutting off is what is left. -/
theorem build?_eq (filled : mapping ≠ []) (functions : List String)
    : let count := nodeCount mapping functions
      build? mapping functions
        = (drain descend? count [0] (descentAt (parents mapping count) functions [0])).bind
            fun last =>
              (last.2.nodes.mapM (prune? last.2.visited)).bind fun nodes => some { nodes } := by
  intro count
  have bare := mapM_bareNode? (Nat.min_le_right mapping.length (functions.length + 1))
  have attaching := foldlM_attach?_all functions
    (Nat.min_le_left mapping.length (functions.length + 1)) (root_attached filled functions)
  have visiting := replaceAt?_unvisited mapping functions (nodeCount_pos filled functions)
  unfold nodeCount at visiting
  unfold count build? nodeCount
  simp only [bare, attaching, visiting, Option.bind_eq_bind, Option.bind_some]

/-- A tree that is built is the one that the mapping describes, and none is built only if there
are more nodes than 32-bit numbers.
-/
theorem build?_cases (filled : mapping ≠ []) (functions : List String)
    : build? mapping functions = some (ofMapping mapping functions)
      ∨ build? mapping functions = none ∧ UInt32.size < nodeCount mapping functions := by
  have root := root_attached filled functions
  have given := drain_descend? functions root
  rw [length_parents] at given
  rw [build?_eq filled functions]
  rcases given with ends | ⟨stops, large⟩
  · left
    rw [ends, Option.bind_some, mapM_prune? root, length_parents]
    rfl
  · right
    rw [stops]
    exact ⟨rfl, large⟩

/-- A tree is built of every mapping over fewer functions than there are 32-bit numbers. -/
theorem build?_eq_ofMapping (filled : mapping ≠ []) (small : functions.length < UInt32.size)
    : build? mapping functions = some (ofMapping mapping functions) := by
  refine (build?_cases filled functions).resolve_right fun ⟨_, large⟩ => ?_
  have count : nodeCount mapping functions ≤ functions.length + 1 := Nat.min_le_right ..
  omega

/-- Whatever tree is built, it is the one that its mapping describes. -/
theorem eq_ofMapping_of_build? {tree : CallTree} (built : build? mapping functions = some tree)
    : mapping ≠ [] ∧ tree = ofMapping mapping functions := by
  have filled : mapping ≠ [] := by
    rintro rfl
    simp at built
  refine ⟨filled, ?_⟩
  rcases build?_cases filled functions with described | ⟨nothing, -⟩
  · exact Option.some.inj (built.symm.trans described)
  · rw [nothing] at built
    cases built

end CallTree

end MutationTesting
