import Mathlib.Tactic.Common
import MutationTesting.Proofs.Naming.Cutting

/-! Which points share the name of their mutants. Mutator and address are read off the end of a
name. In front of them stand the function and the module with their lengths, which are read in
one way unless a function starts with a digit that looks like a part of its length.
-/

namespace MutationTesting

-----------------------------------------------------------------------------------------
-- The end of a name
-----------------------------------------------------------------------------------------

/-- The word of an identifier by which a mutator is known: the one in front of the last. -/
def Mutator.keyword : Mutator → String
  | .mathAdd => "add"
  | .mathSub => "sub"
  | .mathMul => "mul"
  | .mathDiv => "div"
  | .negateCondition => "negate"
  | .conditionalsBoundary => "boundary"
  | .replaceAssignment => "assignment"
  | .replaceCall => "call"
  | .removeVoidCall => "function"
  | .andOrReplacement => "replacement"
  | .scalarValue => "value"

namespace Mutator

theorem mem_all (mutator : Mutator) : mutator ∈ all := by cases mutator <;> decide

theorem keyword_injective {first second : Mutator} (same : first.keyword = second.keyword)
    : first = second := by
  have known : ∀ mutator ∈ all, all.find? (·.keyword == mutator.keyword) = some mutator := by
    decide
  have found := known first (mem_all first)
  rw [same, known second (mem_all second)] at found
  exact (Option.some.inj found).symm

theorem underscore_not_mem_keyword (mutator : Mutator) : '_' ∉ mutator.keyword.toList := by
  cases mutator <;> decide

/-- Behind an underscore the identifier of a mutator ends in its keyword and one more word. -/
theorem append_id (front : String) (mutator : Mutator)
    : ∃ start,
        front ++ "_" ++ mutator.id = start ++ "_" ++ mutator.keyword ++ "_" ++ "mutator" := by
  have words
      : ∃ start, "_" ++ mutator.id = start ++ "_" ++ mutator.keyword ++ "_" ++ "mutator" := by
    cases mutator with
    | mathAdd => exact ⟨"_math", by decide⟩
    | mathSub => exact ⟨"_math", by decide⟩
    | mathMul => exact ⟨"_math", by decide⟩
    | mathDiv => exact ⟨"_math", by decide⟩
    | negateCondition => exact ⟨"", by decide⟩
    | conditionalsBoundary => exact ⟨"_conditionals", by decide⟩
    | replaceAssignment => exact ⟨"_replace", by decide⟩
    | replaceCall => exact ⟨"_replace", by decide⟩
    | removeVoidCall => exact ⟨"_remove_void", by decide⟩
    | andOrReplacement => exact ⟨"_and_or", by decide⟩
    | scalarValue => exact ⟨"_scalar", by decide⟩
  obtain ⟨start, split⟩ := words
  exact ⟨front ++ start, by rw [String.append_assoc, split]; simp only [String.append_assoc]⟩

/-- The identifier of a mutator behind an underscore is cut off in one way, by its last words. -/
theorem cut_at_id {front front' : String} {first second : Mutator}
    (same : front ++ "_" ++ first.id = front' ++ "_" ++ second.id)
    : front = front' ∧ first = second := by
  obtain ⟨start, split⟩ := append_id front first
  obtain ⟨start', split'⟩ := append_id front' second
  have ends := split.symm.trans (same.trans split')
  obtain ⟨upTo, -⟩ := cut_at_last_underscore (by decide) (by decide) ends
  obtain ⟨-, keywords⟩ :=
    cut_at_last_underscore first.underscore_not_mem_keyword second.underscore_not_mem_keyword upTo
  obtain rfl := keyword_injective keywords
  exact ⟨(String.append_left_inj _).mp ((String.append_left_inj _).mp same), rfl⟩

end Mutator

/-- The three numbers of an address at the end of a text are cut off one by one. -/
theorem InstructionAddress.cut_at_identifier {front front' : String}
    {first second : InstructionAddress}
    (same : front ++ "_" ++ first.identifier = front' ++ "_" ++ second.identifier)
    : front = front' ∧ first = second := by
  have numbers (text : String) (address : InstructionAddress)
      : text ++ "_" ++ address.identifier
        = text ++ "_" ++ toString address.function ++ "_" ++ toString address.block ++ "_"
            ++ toString address.instruction := by
    simp only [identifier, String.append_assoc]
  have clear := underscore_not_mem_toString
  rw [numbers, numbers] at same
  obtain ⟨upToBlock, instructions⟩ := cut_at_last_underscore (clear _) (clear _) same
  obtain ⟨upToFunction, blocks⟩ := cut_at_last_underscore (clear _) (clear _) upToBlock
  obtain ⟨fronts, functions⟩ := cut_at_last_underscore (clear _) (clear _) upToFunction
  rcases first with ⟨function, block, instruction⟩
  rcases second with ⟨function', block', instruction'⟩
  obtain rfl : function = function' := toString_inj functions
  obtain rfl : block = block' := toString_inj blocks
  obtain rfl : instruction = instruction' := toString_inj instructions
  exact ⟨fronts, rfl⟩

-----------------------------------------------------------------------------------------
-- Points
-----------------------------------------------------------------------------------------

namespace MutationPoint

/-- The points stand for one change: of the same kind, at the same place of the same function. -/
structure SameMutant (first second : MutationPoint) : Prop where
  module : first.module = second.module
  function : first.function = second.function
  mutator : first.mutator = second.mutator
  address : first.address = second.address

theorem SameMutant.symm {first second : MutationPoint} (same : first.SameMutant second)
    : second.SameMutant first :=
  ⟨same.module.symm, same.function.symm, same.mutator.symm, same.address.symm⟩

/-- Points that share the name of their mutants have the same mutator and address, and the same
text in front of these.
-/
theorem parts_of_sharedName {first second : MutationPoint}
    (same : first.mutatedFunctionName = second.mutatedFunctionName)
    : first.mutator = second.mutator
      ∧ first.address = second.address
      ∧ lengthTagged first.function ++ "_" ++ lengthTagged first.module
        = lengthTagged second.function ++ "_" ++ lengthTagged second.module := by
  obtain ⟨upToMutator, addresses⟩ := InstructionAddress.cut_at_identifier same
  obtain ⟨fronts, mutators⟩ := Mutator.cut_at_id upToMutator
  simp only [String.append_assoc] at fronts
  exact ⟨mutators, addresses, by
    simpa only [String.append_assoc] using (String.append_right_inj _).mp fronts⟩

/-- Points that share the name of their mutants are the same when their functions are equally long.
-/
theorem SameMutant.of_size {first second : MutationPoint}
    (same : first.mutatedFunctionName = second.mutatedFunctionName)
    (size : first.function.utf8ByteSize = second.function.utf8ByteSize)
    : first.SameMutant second := by
  obtain ⟨mutator, address, tagged⟩ := parts_of_sharedName same
  simp only [String.append_assoc] at tagged
  obtain ⟨function, rest⟩ := lengthTagged_append_inj tagged size
  exact {
    module := lengthTagged_injective ((String.append_right_inj "_").mp rest)
    function
    mutator
    address
  }

/-- A function that does not start with a digit shares the name of a mutant with no longer one. -/
theorem SameMutant.of_noLonger {first second : MutationPoint}
    (word : ¬ Text.startsWithDigit first.function)
    (noLonger : first.function.utf8ByteSize ≤ second.function.utf8ByteSize)
    (same : first.mutatedFunctionName = second.mutatedFunctionName)
    : first.SameMutant second := by
  obtain ⟨-, -, tagged⟩ := parts_of_sharedName same
  rcases Nat.lt_or_eq_of_le noLonger with shorter | size
  · exact absurd (startsWithDigit_of_shorter tagged shorter) word
  · exact .of_size same size

/-- As long as no function starts with a digit, different mutants have different names. -/
theorem SameMutant.of_mutatedFunctionName {first second : MutationPoint}
    (word : ¬ Text.startsWithDigit first.function)
    (wordToo : ¬ Text.startsWithDigit second.function)
    (same : first.mutatedFunctionName = second.mutatedFunctionName)
    : first.SameMutant second := by
  rcases Nat.le_total first.function.utf8ByteSize second.function.utf8ByteSize with
    noLonger | noShorter
  · exact .of_noLonger word noLonger same
  · exact (SameMutant.of_noLonger wordToo noShorter same.symm).symm

end MutationPoint

end MutationTesting
