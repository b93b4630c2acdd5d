import MutationTesting.Mutation.Point

/-! How the names of slots and mutants are spelled. These names start with an underscore and hence
without the verbatim marker, so that spelling them only puts one and the same prefix in front.
-/

namespace MutationTesting

namespace Mangler

/-- Names that are spelled alike are the same: a prefix, if any, stands in front of both. -/
theorem spell_injective (mangler : Mangler) {first second : String}
    (same : mangle.spell mangler first = mangle.spell mangler second)
    : first = second := by
  cases marked : mangler.globalPrefix with
  | none => simpa only [mangle.spell, marked] using same
  | some letter =>
      have lists : letter :: first.toList = letter :: second.toList := by
        simpa only [mangle.spell, marked, String.toList_ofList] using congrArg String.toList same
      exact String.toList_injective (List.cons.inj lists).2

/-- A name behind an underscore has no verbatim marker. -/
theorem mangle_underscore (mangler : Mangler) (name : String)
    : mangler.mangle ("_" ++ name) = mangle.spell mangler ("_" ++ name) := by
  have letters : ("_" ++ name).toList = '_' :: name.toList := by simp [String.toList_append]
  simp [mangle, letters, verbatimMarker]

theorem mangle_underscore_inj (mangler : Mangler) {first second : String}
    (same : mangler.mangle ("_" ++ first) = mangler.mangle ("_" ++ second))
    : first = second := by
  rw [mangle_underscore, mangle_underscore] at same
  exact (String.append_right_inj "_").mp (mangler.spell_injective same)

/-- Slots with one symbol belong to one function. -/
theorem mangle_trampolineName_inj (mangler : Mangler) {first second : String}
    (same : mangler.mangle (trampolineName first) = mangler.mangle (trampolineName second))
    : first = second := by
  simp only [trampolineName, String.append_assoc] at same
  exact (String.append_left_inj "_trampoline").mp (mangler.mangle_underscore_inj same)

end Mangler

namespace MutationPoint

/-- The name of a mutant behind its underscore. -/
theorem mutatedFunctionName_eq (point : MutationPoint)
    : ∃ rest, point.mutatedFunctionName = "_" ++ rest := by
  refine ⟨"tamper_" ++ lengthTagged point.function ++ "_" ++ lengthTagged point.module ++ "_"
    ++ point.mutator.id ++ "_" ++ point.address.identifier, ?_⟩
  have front : "_tamper_" = "_" ++ "tamper_" := by decide
  simp only [mutatedFunctionName, front, String.append_assoc]

/-- Mutants with one symbol have one name. -/
theorem mutatedFunctionName_of_mangle {mangler : Mangler} {first second : MutationPoint}
    (same : mangler.mangle first.mutatedFunctionName = mangler.mangle second.mutatedFunctionName)
    : first.mutatedFunctionName = second.mutatedFunctionName := by
  obtain ⟨rest, left⟩ := first.mutatedFunctionName_eq
  obtain ⟨rest', right⟩ := second.mutatedFunctionName_eq
  rw [left, right] at same ⊢
  rw [mangler.mangle_underscore_inj same]

end MutationPoint

end MutationTesting
