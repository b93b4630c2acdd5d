import Mathlib.Data.List.Basic
import MutationTesting.Mutation.Point

/-! Where a joined text can be cut into its parts again. A mark can be cut at when the part
behind the last one is known to have none, a part of known size can be cut off at the front,
and a length in front of a text says where the text ends unless the text goes on with digits.
-/

namespace MutationTesting

/-- The text starts with an ASCII digit. -/
def Text.startsWithDigit (text : String) : Bool := text.toList.head?.any (·.isDigit)

-----------------------------------------------------------------------------------------
-- Marks and sizes
-----------------------------------------------------------------------------------------

/-- A list is cut at its last mark in one way, since a longer last part would contain the mark.
-/
theorem cut_at_last_mark {mark : α} {front front' back back' : List α} (clear : mark ∉ back)
    (clear' : mark ∉ back') (same : front ++ mark :: back = front' ++ mark :: back')
    : front = front' ∧ back = back' := by
  rcases List.append_eq_append_iff.mp same with ⟨more, longer, tail⟩ | ⟨more, longer, tail⟩
  · cases more with
    | nil => simp_all
    | cons first rest =>
        obtain ⟨-, inside⟩ := List.cons_eq_cons.mp tail
        exact absurd (inside ▸ by simp) clear
  · cases more with
    | nil => simp_all
    | cons first rest =>
        obtain ⟨-, inside⟩ := List.cons_eq_cons.mp tail
        exact absurd (inside ▸ by simp) clear'

/-- A text is cut at its last underscore in one way. -/
theorem cut_at_last_underscore {front front' back back' : String}
    (clear : '_' ∉ back.toList) (clear' : '_' ∉ back'.toList)
    (same : front ++ "_" ++ back = front' ++ "_" ++ back')
    : front = front' ∧ back = back' := by
  have lists : front.toList ++ '_' :: back.toList = front'.toList ++ '_' :: back'.toList := by
    simpa [String.toList_append] using congrArg String.toList same
  obtain ⟨fronts, backs⟩ := cut_at_last_mark clear clear' lists
  exact ⟨String.toList_injective fronts, String.toList_injective backs⟩

/-- Texts of one size in front of the same text are the same, since they have the same bytes. -/
theorem cut_at_size {front front' back back' : String} (same : front ++ back = front' ++ back')
    (size : front.utf8ByteSize = front'.utf8ByteSize)
    : front = front' ∧ back = back' := by
  have bytes : front.toByteArray ++ back.toByteArray = front'.toByteArray ++ back'.toByteArray := by
    simpa [String.toByteArray_append] using congrArg String.toByteArray same
  obtain rfl : front = front' := String.toByteArray_inj.mp (ByteArray.append_inj_left bytes size)
  exact ⟨rfl, (String.append_right_inj front).mp same⟩

-----------------------------------------------------------------------------------------
-- Numbers
-----------------------------------------------------------------------------------------

theorem toList_toString (number : Nat) : (toString number).toList = Nat.toDigits 10 number := by
  rw [Nat.toString_eq_ofList_toDigits, String.toList_ofList]

theorem underscore_not_mem_toString (number : Nat) : '_' ∉ (toString number).toList := by
  rw [toList_toString]
  exact Nat.underscore_not_in_toDigits

theorem digits_inj {first second : Nat}
    (same : Nat.toDigits 10 first = Nat.toDigits 10 second)
    : first = second := by
  rw [← Nat.ofDigitChars_ten_toDigits (n := first), same, Nat.ofDigitChars_ten_toDigits]

theorem toString_inj {first second : Nat} (same : toString first = toString second)
    : first = second :=
  digits_inj (by rw [← toList_toString, ← toList_toString, same])

/-- A larger number has no fewer digits. -/
theorem length_digits_mono {small large : Nat} (le : small ≤ large)
    : (Nat.toDigits 10 small).length ≤ (Nat.toDigits 10 large).length := by
  have pos : 0 < (Nat.toDigits 10 large).length := Nat.length_toDigits_pos
  have fits : large < 10 ^ (Nat.toDigits 10 large).length :=
    (Nat.length_toDigits_le_iff (by decide) pos).mp (Nat.le_refl _)
  exact (Nat.length_toDigits_le_iff (by decide) pos).mpr (Nat.lt_of_le_of_lt le fits)

/-- The digits of a number do not go on behind those of a number that is no smaller. -/
theorem eq_of_digits_append {small large : Nat} (le : small ≤ large) {more : List Char}
    (longer : Nat.toDigits 10 small = Nat.toDigits 10 large ++ more)
    : small = large := by
  have fewer := length_digits_mono le
  rw [longer, List.length_append] at fewer
  obtain rfl : more = [] := List.length_eq_zero_iff.mp (by omega)
  exact digits_inj (by simpa using longer)

-----------------------------------------------------------------------------------------
-- Texts with their lengths in front
-----------------------------------------------------------------------------------------

namespace MutationPoint

theorem toList_lengthTagged (text : String)
    : (lengthTagged text).toList = Nat.toDigits 10 text.utf8ByteSize ++ text.toList := by
  simp [lengthTagged, String.toList_append]

/-- Texts with the same length in front of them are cut off alike. -/
theorem lengthTagged_append_inj {first second rest rest' : String}
    (same : lengthTagged first ++ rest = lengthTagged second ++ rest')
    (size : first.utf8ByteSize = second.utf8ByteSize)
    : first = second ∧ rest = rest' := by
  simp only [lengthTagged, size, String.append_assoc] at same
  exact cut_at_size ((String.append_right_inj _).mp same) size

/-- Two readings of the digits in front of a text can only differ when the shorter text goes on
with a digit: its length is then a proper part of the other length.
-/
theorem startsWithDigit_of_shorter {first second rest rest' : String}
    (same : lengthTagged first ++ "_" ++ rest = lengthTagged second ++ "_" ++ rest')
    (shorter : first.utf8ByteSize < second.utf8ByteSize)
    : Text.startsWithDigit first := by
  have lists : Nat.toDigits 10 first.utf8ByteSize ++ (first.toList ++ '_' :: rest.toList)
      = Nat.toDigits 10 second.utf8ByteSize ++ (second.toList ++ '_' :: rest'.toList) := by
    simpa [String.toList_append, toList_lengthTagged] using congrArg String.toList same
  rcases List.append_eq_append_iff.mp lists with ⟨more, longer, tail⟩ | ⟨more, longer, -⟩
  · cases more with
    | nil => exact absurd (digits_inj (by simpa using longer.symm)) (Nat.ne_of_lt shorter)
    | cons digit others =>
        have member : digit ∈ Nat.toDigits 10 second.utf8ByteSize := by simp [longer]
        have isDigit : digit.isDigit := Nat.isDigit_of_mem_toDigits (by decide) (by decide) member
        cases text : first.toList with
        | nil =>
            obtain ⟨rfl, -⟩ := List.cons_eq_cons.mp (by simpa [text] using tail)
            simp at isDigit
        | cons letter letters =>
            obtain ⟨rfl, -⟩ := List.cons_eq_cons.mp (by simpa [text] using tail)
            simpa [Text.startsWithDigit, text] using isDigit
  · exact absurd (eq_of_digits_append (Nat.le_of_lt shorter) longer) (Nat.ne_of_lt shorter)

/-- With nothing behind it a text with its length in front is read in one way, also when it starts
with digits: of two readings the one with the longer length would have the shorter text.
-/
theorem lengthTagged_injective {first second : String}
    (same : lengthTagged first = lengthTagged second)
    : first = second := by
  wlog order : first.utf8ByteSize ≤ second.utf8ByteSize generalizing first second
  · exact (this same.symm (Nat.le_of_lt (Nat.lt_of_not_le order))).symm
  have lists : Nat.toDigits 10 first.utf8ByteSize ++ first.toList
      = Nat.toDigits 10 second.utf8ByteSize ++ second.toList := by
    rw [← toList_lengthTagged, ← toList_lengthTagged, same]
  have size : first.utf8ByteSize = second.utf8ByteSize := by
    rcases List.append_eq_append_iff.mp lists with ⟨more, -, tail⟩ | ⟨more, longer, -⟩
    · have joined : first = String.ofList more ++ second :=
        String.toList_injective (by simpa [String.toList_append] using tail)
      have sizes := congrArg String.utf8ByteSize joined
      rw [String.utf8ByteSize_append] at sizes
      omega
    · exact eq_of_digits_append order longer
  exact (lengthTagged_append_inj (by simpa using same) size : first = second ∧ "" = "").1

end MutationPoint

end MutationTesting
