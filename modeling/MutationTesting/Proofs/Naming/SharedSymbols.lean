import MutationTesting.Proofs.Naming.Cutting
import MutationTesting.Proofs.Naming.Symbols

/-! Which names are spelled as one symbol. A plain name shares its symbol with one other name,
which has this symbol behind the verbatim marker. The names of slots and mutants are all plain,
and the way they end tells slots from mutants.
-/

namespace MutationTesting

namespace Mangler

-----------------------------------------------------------------------------------------
-- Verbatim names
-----------------------------------------------------------------------------------------

/-- The name starts with the verbatim marker. -/
def isVerbatim (name : String) : Bool := name.toList.head? == some verbatimMarker

/-- The verbatim name of the symbol that a plain name has. -/
def verbatimName (mangler : Mangler) (name : String) : String :=
  String.ofList (verbatimMarker :: (mangle.spell mangler name).toList)

theorem mangle_of_plain (mangler : Mangler) {name : String} (plain : ¬ isVerbatim name)
    : mangler.mangle name = mangle.spell mangler name := by
  unfold mangle
  cases letters : name.toList with
  | nil => rfl
  | cons first rest =>
      have other : first ≠ verbatimMarker := by simpa [isVerbatim, letters] using plain
      simp [other]

theorem mangle_of_verbatim (mangler : Mangler) {name : String} (verbatim : isVerbatim name)
    : name = String.ofList (verbatimMarker :: (mangler.mangle name).toList) := by
  unfold mangle
  cases letters : name.toList with
  | nil => simp [isVerbatim, letters] at verbatim
  | cons first rest =>
      obtain rfl : first = verbatimMarker := by simpa [isVerbatim, letters] using verbatim
      exact String.toList_injective (by simp [letters])

theorem isVerbatim_verbatimName (mangler : Mangler) (name : String)
    : isVerbatim (mangler.verbatimName name) := by
  simp [isVerbatim, verbatimName]

theorem mangle_verbatimName (mangler : Mangler) (name : String)
    : mangler.mangle (mangler.verbatimName name) = mangle.spell mangler name := by
  simp [mangle, verbatimName]

/-- A plain name shares its symbol with a verbatim name exactly if that is the one of its symbol. -/
theorem mangle_eq_of_plain (mangler : Mangler) {name other : String} (plain : ¬ isVerbatim name)
    (verbatim : isVerbatim other)
    : mangler.mangle name = mangler.mangle other ↔ other = mangler.verbatimName name := by
  constructor
  · intro same
    rw [mangler.mangle_of_verbatim verbatim, ← same, mangler.mangle_of_plain plain, verbatimName]
  · rintro rfl
    rw [mangler.mangle_of_plain plain, mangle_verbatimName]

/-- Names share their symbol exactly if they are the same or one of them is the verbatim name of the
other.
-/
theorem mangle_eq_iff (mangler : Mangler) {first second : String}
    : mangler.mangle first = mangler.mangle second
      ↔ first = second
        ∨ (¬ isVerbatim first ∧ second = mangler.verbatimName first)
        ∨ (¬ isVerbatim second ∧ first = mangler.verbatimName second) := by
  by_cases verbatim : isVerbatim first <;> by_cases verbatimToo : isVerbatim second
  · -- Verbatim names are told by their symbols.
    have same : mangler.mangle first = mangler.mangle second ↔ first = second := by
      refine ⟨fun same => ?_, congrArg _⟩
      rw [mangler.mangle_of_verbatim verbatim, same, ← mangler.mangle_of_verbatim verbatimToo]
    simp [same, verbatim, verbatimToo]
  · have different : first ≠ second := fun same => verbatimToo (same ▸ verbatim)
    rw [eq_comm, mangler.mangle_eq_of_plain verbatimToo verbatim]
    simp [different, verbatim, verbatimToo]
  · have different : first ≠ second := fun same => verbatim (same ▸ verbatimToo)
    rw [mangler.mangle_eq_of_plain verbatim verbatimToo]
    simp [different, verbatim, verbatimToo]
  · have notTheirs (name other : String) (plain : ¬ isVerbatim name)
        : name ≠ mangler.verbatimName other :=
      fun same => plain (same ▸ mangler.isVerbatim_verbatimName other)
    rw [mangler.mangle_of_plain verbatim, mangler.mangle_of_plain verbatimToo]
    simp only [notTheirs first second verbatim, notTheirs second first verbatimToo, and_false,
      or_false]
    exact ⟨mangler.spell_injective, congrArg _⟩

end Mangler

-----------------------------------------------------------------------------------------
-- Slots and mutants
-----------------------------------------------------------------------------------------

/-- The name of a mutant ends in a number, and that of a slot in a word. -/
theorem MutationPoint.mutatedFunctionName_ne_trampolineName (point : MutationPoint)
    (function : String)
    : point.mutatedFunctionName ≠ trampolineName function := by
  intro same
  have ends : point.mutatedFunctionName
      = "_tamper_" ++ lengthTagged point.function ++ "_" ++ lengthTagged point.module ++ "_"
          ++ point.mutator.id ++ "_" ++ toString point.address.function ++ "_"
          ++ toString point.address.block ++ "_" ++ toString point.address.instruction := by
    simp only [mutatedFunctionName, InstructionAddress.identifier, String.append_assoc]
  have word : trampolineName function = "_" ++ function ++ "_" ++ "trampoline" := by
    have cut : "_trampoline" = "_" ++ "trampoline" := by decide
    simp only [trampolineName, cut, String.append_assoc]
  rw [ends, word] at same
  obtain ⟨-, number⟩ := cut_at_last_underscore (underscore_not_mem_toString _) (by decide) same
  have letter : 't' ∈ Nat.toDigits 10 point.address.instruction := by
    rw [← toList_toString, number]
    decide
  exact absurd (Nat.isDigit_of_mem_toDigits (by decide) (by decide) letter) (by decide)

/-- No mutant has the symbol of a slot. -/
theorem Mangler.mangle_mutatedFunctionName_ne (mangler : Mangler) (point : MutationPoint)
    (function : String)
    : mangler.mangle point.mutatedFunctionName ≠ mangler.mangle (trampolineName function) := by
  intro same
  obtain ⟨rest, name⟩ := point.mutatedFunctionName_eq
  have slot : trampolineName function = "_" ++ (function ++ "_trampoline") := by
    rw [trampolineName, String.append_assoc]
  rw [name, slot] at same
  refine point.mutatedFunctionName_ne_trampolineName function ?_
  rw [name, slot, mangler.mangle_underscore_inj same]

end MutationTesting
