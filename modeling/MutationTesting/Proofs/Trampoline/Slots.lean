import Mathlib.Data.List.Nodup
import MutationTesting.Trampoline.Table

/-! What pointing slots somewhere changes. Names and functions of slots never change, and in a
table whose names are distinct an activation that is released leaves the table as it was.
-/

namespace MutationTesting

/-- The slot as fixing it up leaves it when every function is found. -/
def Slot.fixedUp (address? : String → Option Address) (slot : Slot) : Slot :=
  { slot with target := address? slot.function, fixup := address? slot.function }

theorem Slot.fixedUp_reachesFunction {address? : String → Option Address} {slot : Slot}
    (found : (address? slot.function).isSome)
    : (slot.fixedUp address?).reachesFunction := by
  simp [Slot.reachesFunction, Slot.fixedUp, found]

namespace TrampolineTable

/-- No two slots have the same name. -/
def Distinct (table : TrampolineTable) : Prop := (table.slots.map (·.name)).Nodup

-----------------------------------------------------------------------------------------
-- Lookup
-----------------------------------------------------------------------------------------

theorem find?_name {table : TrampolineTable} {name : String} {slot : Slot}
    (found : table.find? name = some slot)
    : slot.name = name := by
  simpa using List.find?_some found

theorem mem_of_find? {table : TrampolineTable} {name : String} {slot : Slot}
    (found : table.find? name = some slot)
    : slot ∈ table.slots :=
  List.mem_of_find?_eq_some found

theorem find_eq_ok_iff {table : TrampolineTable} {name : String} {slot : Slot}
    : table.find name = .ok slot ↔ table.find? name = some slot := by
  unfold find
  cases table.find? name <;> simp

theorem Distinct.eq_of_name {table : TrampolineTable} (distinct : table.Distinct)
    {left right : Slot} (leftMember : left ∈ table.slots) (rightMember : right ∈ table.slots)
    (same : left.name = right.name)
    : left = right :=
  List.inj_on_of_nodup_map distinct leftMember rightMember same

-----------------------------------------------------------------------------------------
-- Pointing one slot somewhere
-----------------------------------------------------------------------------------------

theorem find?_setTarget_self {table : TrampolineTable} {name : String} {slot : Slot}
    (found : table.find? name = some slot) (target : Option Address)
    : (table.setTarget name target).find? name = some { slot with target } := by
  have same := find?_name found
  unfold find? at found ⊢
  rw [setTarget, List.find?_map, show ((·.name == name) ∘ fun slot : Slot =>
    if slot.name = name then { slot with target } else slot) = (·.name == name) from ?_, found]
  · simp [same]
  · funext other
    by_cases own : other.name = name <;> simp [own]

theorem find?_setTarget_of_ne {table : TrampolineTable} {name other : String}
    (different : other ≠ name) (target : Option Address)
    : (table.setTarget name target).find? other = table.find? other := by
  unfold find?
  rw [setTarget, List.find?_map, show ((·.name == other) ∘ fun slot : Slot =>
    if slot.name = name then { slot with target } else slot) = (·.name == other) from ?_]
  · cases found : table.slots.find? (·.name == other) with
    | none => rfl
    | some slot =>
        have own : slot.name = other := by simpa using List.find?_some found
        simp [own, different]
  · funext slot
    by_cases own : slot.name = name <;> simp [own]

/-- An activated slot is found where it was, with the mutant in it. -/
theorem find?_activate_self {table : TrampolineTable} {name : String} {slot : Slot}
    (found : table.find? name = some slot) (address : Address)
    : (table.activate slot address).1.find? name = some { slot with target := some address } := by
  obtain rfl := find?_name found
  exact find?_setTarget_self found (some address)

theorem find?_activate_of_ne {table : TrampolineTable} {name other : String} {slot : Slot}
    (found : table.find? name = some slot) (different : other ≠ name) (address : Address)
    : (table.activate slot address).1.find? other = table.find? other := by
  obtain rfl := find?_name found
  exact find?_setTarget_of_ne different (some address)

/-- Pointing a slot somewhere and back again changes nothing. -/
theorem release_activate {table : TrampolineTable} (distinct : table.Distinct) {slot : Slot}
    (member : slot ∈ table.slots) (address : Address)
    : (table.activate slot address).1.release (table.activate slot address).2 = table := by
  simp only [activate, release, setTarget, List.map_map]
  congr 1
  rw [List.map_congr_left (g := id) ?_, List.map_id]
  intro other otherMember
  by_cases same : other.name = slot.name
  · have equal := distinct.eq_of_name otherMember member same
    simp [equal]
  · simp [same]

-----------------------------------------------------------------------------------------
-- Registering and fixing up
-----------------------------------------------------------------------------------------

/-- Registering a slot keeps names distinct: a name that is taken is not taken again. -/
theorem Distinct.register {table : TrampolineTable} (distinct : table.Distinct) (slot : Slot)
    : (table.register slot).Distinct := by
  unfold TrampolineTable.register
  split
  · exact distinct
  · rename_i free
    have absent : slot.name ∉ table.slots.map (·.name) := by
      simpa [find?] using free
    simpa [Distinct] using List.Nodup.concat absent distinct

/-- A table made for functions has distinct names, by registering one after the other. -/
theorem ofFunctions_distinct (mangler : Mangler) (functions : List String)
    : (ofFunctions mangler functions).Distinct := by
  unfold ofFunctions
  suffices kept : ∀ table : TrampolineTable, table.Distinct
      → (functions.foldl
          (fun table function => table.register (.ofFunction mangler function)) table).Distinct
      from kept {} (by simp [Distinct])
  induction functions with
  | nil => exact fun _ distinct => distinct
  | cons function rest ih => exact fun table distinct => ih _ (distinct.register _)

/-- A fixup without an error points every slot at its function, all of which are found.
Witness: induction on the slots; the first missing function is an error.
-/
theorem fixupSlots_of_none {address? : String → Option Address} {slots : List Slot}
    (complete : (fixupSlots address? slots).2 = none)
    : (fixupSlots address? slots).1 = slots.map (·.fixedUp address?)
      ∧ ∀ slot ∈ slots, (address? slot.function).isSome := by
  induction slots with
  | nil => exact ⟨rfl, by simp⟩
  | cons slot rest ih =>
      cases found : address? slot.function with
      | none => simp [fixupSlots, found] at complete
      | some address =>
          simp only [fixupSlots, found] at complete ⊢
          obtain ⟨fixed, resolved⟩ := ih complete
          exact ⟨by simp [fixed, Slot.fixedUp, found], by simpa [found] using resolved⟩

theorem fixup_of_none {table fixed : TrampolineTable} {address? : String → Option Address}
    (complete : table.fixup address? = (fixed, none))
    : fixed.slots = table.slots.map (·.fixedUp address?)
      ∧ ∀ slot ∈ table.slots, (address? slot.function).isSome := by
  have noError : (fixupSlots address? table.slots).2 = none := congrArg Prod.snd complete
  have same : { slots := (fixupSlots address? table.slots).1 } = fixed :=
    congrArg Prod.fst complete
  obtain ⟨slots, resolved⟩ := fixupSlots_of_none noError
  exact ⟨by rw [← same, ← slots], resolved⟩

/-- Fixing a table up changes what its slots hold, but not which name finds which slot. -/
theorem find?_of_fixup {table fixed : TrampolineTable} {address? : String → Option Address}
    (complete : table.fixup address? = (fixed, none)) (name : String)
    : fixed.find? name = (table.find? name).map (·.fixedUp address?) := by
  unfold find?
  rw [(fixup_of_none complete).1, List.find?_map]
  rfl

end TrampolineTable

end MutationTesting
