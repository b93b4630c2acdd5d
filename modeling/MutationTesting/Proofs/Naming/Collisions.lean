import Mathlib.Algebra.Group.Nat.Defs
import Mathlib.Data.Nat.Log
import MutationTesting.Proofs.Naming.MutantNames

/-! Where the names of mutants collide. The length in front of a function may swallow the digits
that the function starts with, and then the name is also read as that of a longer function: one
that takes in the length of the module and what the module starts with.
-/

namespace MutationTesting

-----------------------------------------------------------------------------------------
-- Digits and their bytes
-----------------------------------------------------------------------------------------

/-- A number has as many digits as it takes to write the powers of ten around it. -/
theorem length_digits_eq {number width : Nat} (least : 10 ^ width ≤ number)
    (below : number < 10 ^ (width + 1))
    : (Nat.toDigits 10 number).length = width + 1 := by
  have atMost := (Nat.length_toDigits_le_iff (by decide) (Nat.succ_pos width)).mpr below
  have pos : 0 < (Nat.toDigits 10 number).length := Nat.length_toDigits_pos
  rcases Nat.eq_zero_or_pos width with rfl | some
  · omega
  · have more : ¬ (Nat.toDigits 10 number).length ≤ width := by
      rw [Nat.length_toDigits_le_iff (by decide) some]
      omega
    omega

/-- Writing a digit behind a number other than zero gives another number. -/
theorem digits_append_digit {number value : Nat} (pos : 0 < number) (small : value < 10)
    : Nat.toDigits 10 number ++ [value.digitChar] = Nat.toDigits 10 (10 * number + value) := by
  rw [← Nat.toDigits_of_lt_base small, Nat.toDigits_append_toDigits (by decide) pos small]

theorem exists_digitChar {digit : Char} (isDigit : digit.isDigit)
    : ∃ value, value < 10 ∧ digit = value.digitChar := by
  have bounds : 48 ≤ digit.toNat ∧ digit.toNat ≤ 57 := by
    simpa [Char.isDigit, UInt32.le_iff_toNat_le] using isDigit
  have small : digit.toNat - 48 < 10 := by omega
  have code := Nat.toNat_digitChar_of_lt_ten small
  exact ⟨digit.toNat - 48, small, Char.toNat_inj.mp (by omega)⟩

theorem utf8Size_digitChar {value : Nat} (small : value < 10) : value.digitChar.utf8Size = 1 := by
  have all : ∀ value < 10, (Nat.digitChar value).utf8Size = 1 := by decide
  exact all value small

theorem utf8ByteSize_cons (letter : Char) (letters : List Char)
    : (String.ofList (letter :: letters)).utf8ByteSize
      = letter.utf8Size + (String.ofList letters).utf8ByteSize := by
  have joined : String.ofList (letter :: letters)
      = String.singleton letter ++ String.ofList letters :=
    String.toList_injective (by simp)
  rw [joined, String.utf8ByteSize_append, String.utf8ByteSize_singleton]

/-- A text of ASCII letters has as many bytes as letters. -/
theorem utf8ByteSize_ascii {letters : List Char} (ascii : ∀ letter ∈ letters, letter.utf8Size = 1)
    : (String.ofList letters).utf8ByteSize = letters.length := by
  induction letters with
  | nil => rfl
  | cons letter rest ih =>
      obtain ⟨own, others⟩ := List.forall_mem_cons.mp ascii
      rw [utf8ByteSize_cons, own, ih others, List.length_cons, Nat.add_comm]

theorem utf8ByteSize_toString (number : Nat)
    : (toString number).utf8ByteSize = (Nat.toDigits 10 number).length := by
  rw [Nat.toString_eq_ofList_toDigits]
  refine utf8ByteSize_ascii fun digit member => ?_
  obtain ⟨value, small, rfl⟩ :=
    exists_digitChar (Nat.isDigit_of_mem_toDigits (by decide) (by decide) member)
  exact utf8Size_digitChar small

-----------------------------------------------------------------------------------------
-- A second reading of a name
-----------------------------------------------------------------------------------------

namespace MutationPoint

/-- Every number that is not too small has fewer digits than its size. -/
theorem exists_width {room : Nat} (enough : 9 ≤ room)
    : ∃ width, room < 10 ^ width ∧ width + 1 ≤ room := by
  refine ⟨Nat.log 10 room + 1, Nat.lt_pow_succ_log_self (by decide) room, ?_⟩
  have least := Nat.pow_log_le_self 10 (show room ≠ 0 by omega)
  cases digits : Nat.log 10 room with
  | zero => omega
  | succ less =>
      have power : less < 10 ^ less := Nat.lt_pow_self (by decide)
      rw [digits, Nat.pow_succ] at least
      omega

/-- Any number of bytes but the smallest can be taken up by the length of a module and what the
module starts with.
-/
theorem exists_module {room : Nat} (enough : 9 ≤ room)
    : ∃ padding inner : String,
        (toString (padding ++ "_" ++ lengthTagged inner).utf8ByteSize ++ padding).utf8ByteSize
          = room := by
  obtain ⟨width, below, fits⟩ := exists_width enough
  have power : 10 ^ (width + 1) = 10 ^ width * 10 := Nat.pow_succ 10 width
  have letters (count : Nat) : (String.ofList (List.replicate count 'a')).utf8ByteSize = count := by
    rw [utf8ByteSize_ascii, List.length_replicate]
    intro letter member
    obtain rfl := List.eq_of_mem_replicate member
    rfl
  -- The rest of the module is so long that its length has `width + 1` digits whatever comes first.
  refine ⟨.ofList (.replicate (room - (width + 1)) 'a'), .ofList (.replicate (10 ^ width) 'a'), ?_⟩
  have inner : (Nat.toDigits 10 (10 ^ width)).length = width + 1 :=
    length_digits_eq (Nat.le_refl _) (by omega)
  have outer : (Nat.toDigits 10 (room - (width + 1) + 1 + (width + 1 + 10 ^ width))).length
      = width + 1 :=
    length_digits_eq (by omega) (by omega)
  have underscore : ("_" : String).utf8ByteSize = 1 := rfl
  simp only [lengthTagged, String.utf8ByteSize_append, utf8ByteSize_toString, letters, underscore,
    inner, outer]
  omega

/-- A digit at the start of a text is also read as the last digit of the length in front of it. -/
theorem lengthTagged_digit {value : Nat} (small : value < 10) (rest : List Char)
    : let text := String.ofList (value.digitChar :: rest)
      lengthTagged text = toString (10 * text.utf8ByteSize + value) ++ String.ofList rest := by
  intro text
  have size : text.utf8ByteSize = value.digitChar.utf8Size + (String.ofList rest).utf8ByteSize :=
    utf8ByteSize_cons value.digitChar rest
  have pos : 0 < text.utf8ByteSize := by
    rw [utf8Size_digitChar small] at size
    omega
  apply String.toList_injective
  rw [toList_lengthTagged, String.toList_append, toList_toString, ← digits_append_digit pos small]
  simp [text]

/-- A text that starts with a digit is followed by a module such that both are also read as a longer
text and what is left of the module.
-/
theorem exists_longer {text : String} (digit : Text.startsWithDigit text)
    : ∃ module longer inner : String,
        text.utf8ByteSize < longer.utf8ByteSize
        ∧ lengthTagged text ++ "_" ++ lengthTagged module
          = lengthTagged longer ++ "_" ++ lengthTagged inner := by
  cases letters : text.toList with
  | nil => simp [Text.startsWithDigit, letters] at digit
  | cons letter rest =>
      obtain ⟨value, small, rfl⟩ :=
        exists_digitChar (by simpa [Text.startsWithDigit, letters] using digit)
      obtain rfl : text = String.ofList (value.digitChar :: rest) := by
        rw [← letters, String.ofList_toList]
      have size := utf8ByteSize_cons value.digitChar rest
      rw [utf8Size_digitChar small] at size
      have reading := lengthTagged_digit small rest
      dsimp only at reading
      generalize String.ofList (value.digitChar :: rest) = text at size reading ⊢
      have enough : 9 ≤ 9 * text.utf8ByteSize + value := by omega
      obtain ⟨padding, inner, filled⟩ := exists_module enough
      let module := padding ++ "_" ++ lengthTagged inner
      let longer := String.ofList rest ++ "_" ++ (toString module.utf8ByteSize ++ padding)
      have longerSize : longer.utf8ByteSize = 10 * text.utf8ByteSize + value := by
        have underscore : ("_" : String).utf8ByteSize = 1 := rfl
        simp only [longer, module, String.utf8ByteSize_append, underscore] at filled ⊢
        omega
      refine ⟨module, longer, inner, by omega, ?_⟩
      rw [reading, lengthTagged, lengthTagged, longerSize]
      simp only [longer, module, String.append_assoc]

/-- A name is made of the function and the module with their lengths, and of what tells the change.
-/
theorem mutatedFunctionName_eq_tagged (point : MutationPoint)
    : point.mutatedFunctionName
      = "_tamper_" ++ (lengthTagged point.function ++ "_" ++ lengthTagged point.module) ++ "_"
          ++ point.mutator.id ++ "_" ++ point.address.identifier := by
  simp only [mutatedFunctionName, String.append_assoc]

/-- A function that starts with a digit shares the name of a mutant with a longer function. -/
theorem exists_sharedName {function : String} (digit : Text.startsWithDigit function)
    : ∃ first second : MutationPoint,
        first.function = function
        ∧ first.function.utf8ByteSize < second.function.utf8ByteSize
        ∧ first.mutatedFunctionName = second.mutatedFunctionName := by
  obtain ⟨module, longer, inner, shorter, same⟩ := exists_longer digit
  let first : MutationPoint := { module, function, address := ⟨0, 0, 0⟩, mutator := .mathAdd }
  let second : MutationPoint := { first with module := inner, function := longer }
  refine ⟨first, second, rfl, shorter, ?_⟩
  rw [mutatedFunctionName_eq_tagged, mutatedFunctionName_eq_tagged, same]

-----------------------------------------------------------------------------------------
-- Which names collide
-----------------------------------------------------------------------------------------

/-- The name of a mutant of a function tells the mutator and the address. It also tells the function
and the module, from those of all functions that are no shorter, exactly if the function does not
start with a digit.
-/
theorem mutatedFunctionName_tells (function : String)
    : (∀ first second : MutationPoint,
        first.function = function
        → first.mutatedFunctionName = second.mutatedFunctionName
        → first.mutator = second.mutator ∧ first.address = second.address)
      ∧ ((∀ first second : MutationPoint,
          first.function = function
          → first.function.utf8ByteSize ≤ second.function.utf8ByteSize
          → first.mutatedFunctionName = second.mutatedFunctionName
          → first.SameMutant second)
        ↔ ¬ Text.startsWithDigit function) := by
  refine ⟨?_, ?_, ?_⟩
  · intro first second _ same
    obtain ⟨mutator, address, -⟩ := parts_of_sharedName same
    exact ⟨mutator, address⟩
  · intro apart digit
    obtain ⟨first, second, own, shorter, same⟩ := exists_sharedName digit
    have equal := apart first second own (Nat.le_of_lt shorter) same
    exact absurd (congrArg String.utf8ByteSize equal.function) (Nat.ne_of_lt shorter)
  · rintro word first second rfl noLonger same
    exact .of_noLonger word noLonger same

/-- A change of the function `0` in the module `program_1a`. -/
def digitPoint : MutationPoint :=
  { module := "program_1a", function := "0", address := ⟨0, 0, 0⟩, mutator := .mathAdd }

/-- A change of the function `_10program` in the module `a`. -/
def wordPoint : MutationPoint :=
  { module := "a", function := "_10program", address := ⟨0, 0, 0⟩, mutator := .mathAdd }

/-- Different mutants may share their name: that of two functions in two modules, where the length
of the shorter function and its digit are read as the length of the longer one.
-/
theorem not_mutatedFunctionName_injective
    : ¬ ∀ first second : MutationPoint,
        first.mutatedFunctionName = second.mutatedFunctionName → first.SameMutant second := by
  intro apart
  have same := apart digitPoint wordPoint (by decide +kernel)
  exact absurd same.function (by decide)

end MutationPoint

end MutationTesting
