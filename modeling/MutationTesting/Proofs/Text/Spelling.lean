import MutationTesting.Text.Utf8

/-! Which bytes spell a character: a first byte and as many further bytes as it asks for, within
the bounds that it sets. These are the bytes that writing a character gives, and no others.
-/

namespace MutationTesting.Utf8

-----------------------------------------------------------------------------------------
-- First bytes and the bytes after them
-----------------------------------------------------------------------------------------

section FirstBytes

variable {byte low high : UInt8}

theorem leadRange?_zero_iff
    : leadRange? byte = some (0, low, high) ↔ byte ≤ 0x7F ∧ low = 0 ∧ high = 0 := by
  fun_cases leadRange? byte <;> grind

theorem leadRange?_one_iff
    : leadRange? byte = some (1, low, high)
      ↔ (0xC2 ≤ byte ∧ byte ≤ 0xDF) ∧ low = 0x80 ∧ high = 0xBF := by
  fun_cases leadRange? byte <;> grind

theorem leadRange?_two_iff
    : leadRange? byte = some (2, low, high)
      ↔ byte = 0xE0 ∧ low = 0xA0 ∧ high = 0xBF
        ∨ byte = 0xED ∧ low = 0x80 ∧ high = 0x9F
        ∨ (0xE0 < byte ∧ byte ≤ 0xEF ∧ byte ≠ 0xED) ∧ low = 0x80 ∧ high = 0xBF := by
  fun_cases leadRange? byte <;> grind

theorem leadRange?_three_iff
    : leadRange? byte = some (3, low, high)
      ↔ byte = 0xF0 ∧ low = 0x90 ∧ high = 0xBF
        ∨ byte = 0xF4 ∧ low = 0x80 ∧ high = 0x8F
        ∨ (0xF0 < byte ∧ byte < 0xF4) ∧ low = 0x80 ∧ high = 0xBF := by
  fun_cases leadRange? byte <;> grind

/-- No first byte asks for more than three bytes. -/
theorem leadRange?_le {count : Nat} (starts : leadRange? byte = some (count, low, high))
    : count ≤ 3 := by
  revert starts
  fun_cases leadRange? byte <;> grind

end FirstBytes

/-- Bytes that may follow a first byte that asks for `missing` more: the first of them lies between
the bounds. They need not be all that are missing.
-/
def Continues : (missing : Nat) → (low high : UInt8) → List UInt8 → Prop
  | _, _, _, [] => True
  | 0, _, _, _ :: _ => False
  | missing + 1, low, high, byte :: rest =>
      (low ≤ byte ∧ byte ≤ high) ∧ Continues missing 0x80 0xBF rest

section Continuing

variable {byte low high : UInt8} {count missing : Nat} {part bytes : List UInt8}

@[simp]
theorem continues_nil : Continues missing low high [] := by
  cases missing <;> trivial

theorem continues_cons_iff
    : Continues missing low high (byte :: part)
      ↔ ∃ others,
          missing = others + 1 ∧ (low ≤ byte ∧ byte ≤ high) ∧ Continues others 0x80 0xBF part := by
  cases missing with
  | zero => simp [Continues]
  | succ others => simp [Continues]

theorem Continues.length_le (continues : Continues missing low high part)
    : part.length ≤ missing := by
  induction part generalizing missing low high with
  | nil => exact Nat.zero_le _
  | cons byte part ih =>
      obtain ⟨others, rfl, -, rest⟩ := continues_cons_iff.mp continues
      exact Nat.succ_le_succ (ih rest)

/-- What continues a character may stop earlier. -/
theorem Continues.of_prefix (continues : Continues missing low high part) (start : bytes <+: part)
    : Continues missing low high bytes := by
  induction bytes generalizing missing low high part with
  | nil => exact continues_nil
  | cons byte bytes ih =>
      obtain ⟨part, rfl, startToo⟩ := List.cons_prefix_iff.mp start
      obtain ⟨others, rfl, within, rest⟩ := continues_cons_iff.mp continues
      exact ⟨within, ih rest startToo⟩

/-- What continues a character can go on until no byte is missing.
Witness: the least byte that is allowed at each place.
-/
theorem Continues.extend (continues : Continues missing low high part) (ordered : low ≤ high)
    : ∃ more, (part ++ more).length = missing ∧ Continues missing low high (part ++ more) := by
  induction missing generalizing low high part with
  | zero =>
      obtain rfl : part = [] := List.length_eq_zero_iff.mp (Nat.le_zero.mp continues.length_le)
      exact ⟨[], rfl, continues_nil⟩
  | succ missing ih =>
      cases part with
      | nil =>
          have nothing : Continues missing 0x80 0xBF [] := continues_nil
          obtain ⟨more, length, rest⟩ := ih nothing (by decide)
          exact ⟨low :: more, congrArg Nat.succ length, ⟨UInt8.le_refl low, ordered⟩, rest⟩
      | cons byte part =>
          obtain ⟨more, length, rest⟩ := ih continues.2 (by decide)
          exact ⟨more, congrArg Nat.succ length, continues.1, rest⟩

/-- All further bytes of a character are continuation bytes. -/
theorem Continues.isContinuation (continues : Continues missing low high part)
    (bounds : 0 < missing → 0x80 ≤ low ∧ high ≤ 0xBF)
    : ∀ byte ∈ part, isContinuation byte := by
  induction part generalizing missing low high with
  | nil => simp
  | cons byte part ih =>
      obtain ⟨others, rfl, ⟨least, most⟩, rest⟩ := continues_cons_iff.mp continues
      obtain ⟨lower, upper⟩ := bounds (Nat.succ_pos others)
      have first : Utf8.isContinuation byte := by
        simp [Utf8.isContinuation, UInt8.le_trans lower least, UInt8.le_trans most upper]
      exact List.forall_mem_cons.mpr ⟨first, ih rest fun _ => by decide⟩

theorem leadRange?_ordered (starts : leadRange? byte = some (count, low, high)) : low ≤ high := by
  revert starts
  fun_cases leadRange? byte <;> grind

theorem leadRange?_bounds (starts : leadRange? byte = some (count, low, high)) (more : 0 < count)
    : 0x80 ≤ low ∧ high ≤ 0xBF := by
  revert starts more
  fun_cases leadRange? byte <;> grind

/-- A byte that continues characters starts none. -/
theorem leadRange?_not_continuation (starts : leadRange? byte = some (count, low, high))
    : isContinuation byte = false := by
  revert starts
  fun_cases leadRange? byte <;> grind [Utf8.isContinuation]

-----------------------------------------------------------------------------------------
-- Counting what continues a character
-----------------------------------------------------------------------------------------

theorem continuationLength_cons
    : continuationLength (missing + 1) low high (byte :: bytes)
      = if low ≤ byte ∧ byte ≤ high then 1 + continuationLength missing 0x80 0xBF bytes else 0 := by
  simp [continuationLength]

theorem continuationLength_le_length
    : continuationLength missing low high bytes ≤ bytes.length := by
  fun_induction continuationLength missing low high bytes with
  | case1 => exact Nat.zero_le _
  | case2 => exact Nat.zero_le _
  | case3 missing low high byte bytes within ih =>
      rw [List.length_cons]
      omega
  | case4 => exact Nat.zero_le _

/-- The counted bytes continue the character. -/
theorem continues_take
    : Continues missing low high (bytes.take (continuationLength missing low high bytes)) := by
  fun_induction continuationLength missing low high bytes with
  | case1 => exact continues_nil
  | case2 => simp
  | case3 missing low high byte bytes within ih =>
      rw [Nat.add_comm, List.take_succ_cons]
      exact ⟨by simpa using within, ih⟩
  | case4 => exact continues_nil

/-- No more of the bytes continue the character than are counted. -/
theorem Continues.length_le_continuationLength (continues : Continues missing low high part)
    (start : part <+: bytes)
    : part.length ≤ continuationLength missing low high bytes := by
  induction part generalizing missing low high bytes with
  | nil => exact Nat.zero_le _
  | cons byte part ih =>
      obtain ⟨bytes, rfl, startToo⟩ := List.cons_prefix_iff.mp start
      obtain ⟨others, rfl, within, rest⟩ := continues_cons_iff.mp continues
      have := ih rest startToo
      rw [continuationLength_cons, if_pos within, List.length_cons]
      omega

end Continuing

/-- A first byte and all bytes that it asks for spell the character with the given number. -/
def Spells (byte : UInt8) (following : List UInt8) (number : Nat) : Prop :=
  (∃ low high,
    leadRange? byte = some (following.length, low, high)
    ∧ Continues following.length low high following)
  ∧ assemble (leadBits byte following.length) following = number

-----------------------------------------------------------------------------------------
-- The number of a character in its bytes
-----------------------------------------------------------------------------------------

section Numbers

variable {byte first second third : UInt8} {number : Nat}

theorem spells_nil_iff : Spells byte [] number ↔ number ≤ 0x7F ∧ byte.toNat = number := by
  simp only [Spells, List.length_nil, leadRange?_zero_iff, UInt8.le_iff_toNat_le,
    UInt8.reduceToNat, continues_nil, and_true, exists_and_left, exists_eq, assemble, leadBits,
    List.foldl_nil]
  omega

theorem spells_one_iff
    : Spells byte [first] number
      ↔ (0x7F < number ∧ number ≤ 0x7FF)
        ∧ byte.toNat = 0xC0 + number / 64
        ∧ first.toNat = 0x80 + number % 64 := by
  simp only [Spells, List.length_cons, List.length_nil, Nat.zero_add, leadRange?_one_iff,
    UInt8.le_iff_toNat_le, UInt8.reduceToNat, and_assoc, Continues, and_true, exists_and_left,
    exists_eq_left, assemble, leadBits, List.foldl_cons, List.foldl_nil]
  omega

/-- Three bytes spell no surrogates. The bounds on the second byte exclude them, and all numbers
that are spelled with fewer bytes.
-/
theorem spells_two_iff
    : Spells byte [first, second] number
      ↔ (0x7FF < number ∧ number ≤ 0xFFFF ∧ (number < 0xD800 ∨ 0xDFFF < number))
        ∧ byte.toNat = 0xE0 + number / 4096
        ∧ first.toNat = 0x80 + number / 64 % 64
        ∧ second.toNat = 0x80 + number % 64 := by
  simp only [Spells, List.length_cons, List.length_nil, Nat.zero_add, Nat.reduceAdd,
    leadRange?_two_iff, ← UInt8.toNat_inj (a := byte), UInt8.reduceToNat, UInt8.lt_iff_toNat_lt,
    UInt8.le_iff_toNat_le, ne_eq, and_assoc, Continues, and_true, or_and_right, exists_or,
    exists_and_left, exists_eq_left, assemble, leadBits, List.foldl_cons, List.foldl_nil]
  constructor
  · rintro (ranges | ranges | ranges)
    · omega
    · omega
    · omega
  · intro ranges
    rcases Nat.lt_trichotomy (number / 4096) 13 with less | same | more
    · rcases Nat.eq_zero_or_pos (number / 4096) with none | some
      · left
        omega
      · right; right
        omega
    · right; left
      omega
    · right; right
      omega

/-- Four bytes spell the numbers beyond those of three, up to the last character. -/
theorem spells_three_iff
    : Spells byte [first, second, third] number
      ↔ (0xFFFF < number ∧ number ≤ 0x10FFFF)
        ∧ byte.toNat = 0xF0 + number / 262144
        ∧ first.toNat = 0x80 + number / 4096 % 64
        ∧ second.toNat = 0x80 + number / 64 % 64
        ∧ third.toNat = 0x80 + number % 64 := by
  simp only [Spells, List.length_cons, List.length_nil, Nat.zero_add, Nat.reduceAdd,
    leadRange?_three_iff, ← UInt8.toNat_inj (a := byte), UInt8.reduceToNat, UInt8.lt_iff_toNat_lt,
    UInt8.le_iff_toNat_le, and_assoc, Continues, and_true, or_and_right, exists_or,
    exists_and_left, exists_eq_left, assemble, leadBits, List.foldl_cons, List.foldl_nil]
  constructor
  · rintro (ranges | ranges | ranges)
    · omega
    · omega
    · omega
  · intro ranges
    rcases Nat.eq_zero_or_pos (number / 262144) with none | some
    · left
      omega
    · rcases Nat.lt_or_ge (number / 262144) 4 with less | most
      · right; right
        omega
      · right; left
        omega

end Numbers

-----------------------------------------------------------------------------------------
-- Characters
-----------------------------------------------------------------------------------------

/-- The bytes of a character spell its number. -/
theorem exists_spells (c : Char)
    : ∃ byte following,
        String.utf8EncodeChar c = byte :: following ∧ Spells byte following c.toNat := by
  have valid : c.toNat < 0xD800 ∨ 0xDFFF < c.toNat ∧ c.toNat < 0x110000 := c.valid
  unfold String.utf8EncodeChar
  rw [show c.val.toNat = c.toNat from rfl]
  generalize c.toNat = number at valid ⊢
  dsimp only
  split
  · refine ⟨_, _, rfl, spells_nil_iff.mpr ?_⟩
    rw [UInt8.toNat_ofNat']
    omega
  split
  · refine ⟨_, _, rfl, spells_one_iff.mpr ?_⟩
    rw [UInt8.toNat_ofNat', UInt8.toNat_ofNat']
    omega
  split
  · refine ⟨_, _, rfl, spells_two_iff.mpr ?_⟩
    rw [UInt8.toNat_ofNat', UInt8.toNat_ofNat', UInt8.toNat_ofNat']
    omega
  · refine ⟨_, _, rfl, spells_three_iff.mpr ?_⟩
    rw [UInt8.toNat_ofNat', UInt8.toNat_ofNat', UInt8.toNat_ofNat', UInt8.toNat_ofNat']
    omega

section Reading

variable {byte other : UInt8} {following others : List UInt8} {number : Nat}

/-- Each number that bytes spell is that of a character. -/
theorem Spells.valid (spells : Spells byte following number) : number.isValidChar := by
  obtain ⟨⟨low, high, starts, -⟩, -⟩ := id spells
  have few := leadRange?_le starts
  unfold Nat.isValidChar
  match following with
  | [] => have := spells_nil_iff.mp spells; omega
  | [_] => have := spells_one_iff.mp spells; omega
  | [_, _] => have := spells_two_iff.mp spells; omega
  | [_, _, _] => have := spells_three_iff.mp spells; omega
  | _ :: _ :: _ :: _ :: _ =>
      simp only [List.length_cons] at few
      omega

/-- What bytes spell is a character whose bytes they are. -/
theorem Spells.encodes (spells : Spells byte following number)
    : ∃ c : Char, c.toNat = number ∧ String.utf8EncodeChar c = byte :: following := by
  have valid := spells.valid
  obtain ⟨⟨low, high, starts, -⟩, -⟩ := id spells
  have few := leadRange?_le starts
  refine ⟨Char.ofNatAux number valid, rfl, ?_⟩
  unfold String.utf8EncodeChar
  rw [show (Char.ofNatAux number valid).val.toNat = number from rfl]
  match following with
  | [] =>
      have := spells_nil_iff.mp spells
      rw [if_pos (by omega)]
      simp only [List.cons.injEq, ← UInt8.toNat_inj, UInt8.toNat_ofNat', and_true]
      omega
  | [_] =>
      have := spells_one_iff.mp spells
      rw [if_neg (by omega), if_pos (by omega)]
      simp only [List.cons.injEq, ← UInt8.toNat_inj, UInt8.toNat_ofNat', and_true]
      omega
  | [_, _] =>
      have := spells_two_iff.mp spells
      rw [if_neg (by omega), if_neg (by omega), if_pos (by omega)]
      simp only [List.cons.injEq, ← UInt8.toNat_inj, UInt8.toNat_ofNat', and_true]
      omega
  | [_, _, _] =>
      have := spells_three_iff.mp spells
      rw [if_neg (by omega), if_neg (by omega), if_neg (by omega)]
      simp only [List.cons.injEq, ← UInt8.toNat_inj, UInt8.toNat_ofNat', and_true]
      omega
  | _ :: _ :: _ :: _ :: _ =>
      simp only [List.length_cons] at few
      omega

end Reading

end MutationTesting.Utf8
