import Mathlib.Data.List.Induction
import MutationTesting.Proofs.Lists.FirstAppearances
import MutationTesting.Proofs.Naming.Symbols
import MutationTesting.Proofs.Trampoline.Slots

/-! Which functions a table has slots for. No two functions share a slot, so that a slot is found
exactly for the functions that were listed; and fixing the table up fails for the first function
of the list that is missing.
-/

namespace MutationTesting

namespace TrampolineTable

-----------------------------------------------------------------------------------------
-- Slots by function
-----------------------------------------------------------------------------------------

theorem ofFunctions_append (mangler : Mangler) (functions : List String) (last : String)
    : ofFunctions mangler (functions ++ [last])
      = (ofFunctions mangler functions).register (.ofFunction mangler last) := by
  simp [ofFunctions]

theorem find?_register (table : TrampolineTable) (slot : Slot) (name : String)
    : (table.register slot).find? name
      = (table.find? name).or (if slot.name = name then some slot else none) := by
  unfold register
  cases taken : table.find? slot.name with
  | some other =>
      by_cases same : slot.name = name
      · simp [← same, taken]
      · simp [same]
  | none =>
      by_cases same : slot.name = name <;> simp [find?, List.find?_append, same]

/-- The slot of a function is found exactly if the function was listed. By induction on the
functions from the last one on; no other function has a slot of that name.
-/
theorem find?_ofFunctions (mangler : Mangler) (functions : List String) (function : String)
    : (ofFunctions mangler functions).find? (mangler.mangle (trampolineName function))
      = if function ∈ functions then some (.ofFunction mangler function) else none := by
  induction functions using List.reverseRecOn with
  | nil => rfl
  | append_singleton rest last ih =>
      rw [ofFunctions_append, find?_register, ih]
      by_cases same : last = function
      · subst same
        by_cases listed : last ∈ rest <;> simp [listed, Slot.ofFunction]
      · have other : (Slot.ofFunction mangler last).name
            ≠ mangler.mangle (trampolineName function) :=
          fun equal => same (mangler.mangle_trampolineName_inj equal)
        by_cases listed : function ∈ rest <;> simp [listed, other, Ne.symm same]

/-- Functions have their slots in the order in which they are first listed. By induction on the
functions from the last one on: it gets a slot unless it was listed before.
-/
theorem slots_ofFunctions (mangler : Mangler) (functions : List String)
    : (ofFunctions mangler functions).slots = functions.eraseDups.map (.ofFunction mangler) := by
  induction functions using List.reverseRecOn with
  | nil => rfl
  | append_singleton rest last ih =>
      have known := find?_ofFunctions mangler rest last
      rw [ofFunctions_append, eraseDups_concat]
      by_cases listed : last ∈ rest <;> simp [register, Slot.ofFunction, known, listed, ih]

-----------------------------------------------------------------------------------------
-- Missing functions
-----------------------------------------------------------------------------------------

/-- The error for a function of the program that is missing. -/
def missingFunction (mangler : Mangler) (function : String) : TrampolineError :=
  .unresolvedFunction (mangler.mangle function) (mangler.mangle (trampolineName function))

/-- Fixing up fails for the first slot whose function is missing. -/
theorem fixupSlots_error (address? : String → Option Address) (slots : List Slot)
    : (fixupSlots address? slots).2
      = (slots.find? fun slot => (address? slot.function).isNone).map fun slot =>
          .unresolvedFunction slot.function slot.name := by
  induction slots with
  | nil => rfl
  | cons slot rest ih =>
      cases found : address? slot.function <;> simp [fixupSlots, found, ih]

/-- Fixing up fails for the first function of the list that is missing. By induction on the
functions from the last one on: a function without a slot of its own was listed before.
-/
theorem fixup_error (mangler : Mangler) (functions : List String)
    (address? : String → Option Address)
    : ((ofFunctions mangler functions).fixup address?).2
      = (functions.find? fun function => (address? (mangler.mangle function)).isNone).map
          (missingFunction mangler) := by
  have error (table : TrampolineTable)
      : (table.fixup address?).2 = (fixupSlots address? table.slots).2 :=
    rfl
  induction functions using List.reverseRecOn with
  | nil => rfl
  | append_singleton rest last ih =>
      have known := find?_ofFunctions mangler rest last
      rw [error, fixupSlots_error] at ih ⊢
      rw [ofFunctions_append, List.find?_append]
      by_cases listed : last ∈ rest
      · have taken : (ofFunctions mangler rest).register (.ofFunction mangler last)
            = ofFunctions mangler rest := by
          simp [register, Slot.ofFunction, known, listed]
        rw [taken, ih]
        cases missing : rest.find? fun function => (address? (mangler.mangle function)).isNone with
        | some first => rfl
        | none => simpa using List.find?_eq_none.mp missing last listed
      · have added : ((ofFunctions mangler rest).register (.ofFunction mangler last)).slots
            = (ofFunctions mangler rest).slots ++ [.ofFunction mangler last] := by
          simp [register, Slot.ofFunction, known, listed]
        rw [added, List.find?_append, Option.map_or, ih, Option.map_or]
        congr 1
        cases found : address? (mangler.mangle last) <;>
          simp [Slot.ofFunction, found, missingFunction]

end TrampolineTable

end MutationTesting
