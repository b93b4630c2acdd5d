import Mathlib.Algebra.Group.Nat.Defs
import Mathlib.Data.List.Basic
import MutationTesting.Document.TomlReader

/-! Reading lines of TOML documents: headers, and names with a flag, a number or a short text. Each
reader takes what was written for it from the front of the text, whatever follows on the next lines.
-/

namespace MutationTesting.Document

namespace Scanner

variable {α β : Type} {reader first second : Scanner α} {text rest : List Char}

-----------------------------------------------------------------------------------------
-- Readers in general
-----------------------------------------------------------------------------------------

theorem bind_of_some {answer : α} (reads : reader text = some (answer, rest))
    (next : α → Scanner β)
    : (reader >>= next) text = next answer rest := by
  simp only [bind, StateT.bind, reads, Option.bind_some]

theorem bind_of_none (refuses : reader text = none) (next : α → Scanner β)
    : (reader >>= next) text = none := by
  simp only [bind, StateT.bind, refuses, Option.bind_none]

theorem orElse_of_some {answer : α × List Char} (reads : first text = some answer)
    : (first <|> second) text = some answer := by
  change (first text <|> second text) = _
  rw [reads]
  rfl

theorem orElse_of_none (refuses : first text = none) : (first <|> second) text = second text := by
  change (first text <|> second text) = _
  rw [refuses]
  rfl

theorem attempt_of_some {answer : α} (reads : reader text = some (answer, rest))
    : attempt reader text = some (some answer, rest) := by
  rw [attempt, reads]

theorem attempt_of_none (refuses : reader text = none)
    : attempt reader text = some (none, text) := by
  rw [attempt, refuses]

theorem check_of_true {condition : Bool} (holds : condition = true)
    : check condition text = some ((), text) := by
  rw [check, holds]
  rfl

/-- Characters that are read one by one are all read, up to where the reader refuses. -/
theorem many_of_each {reader : Scanner Char} (letters : List Char)
    (each : ∀ c ∈ letters, ∀ behind, reader (c :: behind) = some (c, behind))
    (stops : reader rest = none)
    : many reader (letters ++ rest) = some (letters, rest) := by
  -- The budget of `many` comes from the whole text, which is too much once letters are gone.
  have within (budget : Nat) (enough : letters.length < budget)
      : manyWithin reader budget (letters ++ rest) = some (letters, rest) := by
    induction letters generalizing budget with
    | nil =>
        cases budget with
        | zero => exact absurd enough (Nat.not_lt_zero _)
        | succ budget =>
            rw [List.nil_append, manyWithin, bind_of_some (attempt_of_none stops)]
            rfl
    | cons c letters ih =>
        cases budget with
        | zero => exact absurd enough (Nat.not_lt_zero _)
        | succ budget =>
            have others := ih (fun d member => each d (List.mem_cons_of_mem c member)) budget
              (Nat.lt_of_succ_lt_succ enough)
            have front := each c (List.mem_cons_self ..) (letters ++ rest)
            rw [manyWithin, List.cons_append, bind_of_some (attempt_of_some front)]
            dsimp only
            rw [bind_of_some others]
            rfl
  apply within
  rw [List.length_append]
  omega

theorem many_of_none (stops : reader text = none) : many reader text = some ([], text) := by
  rw [many, manyWithin, bind_of_some (attempt_of_none stops)]
  rfl

/-- Characters that all satisfy a condition are taken up to the first one that does not. -/
theorem takeMany_append {condition : Char → Bool} {letters : List Char} (something : letters ≠ [])
    (all : ∀ c ∈ letters, condition c = true) (stops : ∀ c ∈ rest.head?, condition c = false)
    : takeMany condition (letters ++ rest) = some (letters, rest) := by
  have behind : rest.takeWhile condition = [] ∧ rest.dropWhile condition = rest := by
    cases rest with
    | nil => exact ⟨rfl, rfl⟩
    | cons c rest => simp [stops c rfl]
  have whole : takeWhile condition (letters ++ rest) = some (letters, rest) := by
    rw [takeWhile, List.takeWhile_append_of_pos all, List.dropWhile_append_of_pos all, behind.1,
      behind.2, List.append_nil]
  have nonempty : (!letters.isEmpty) = true := by simpa using something
  rw [takeMany, bind_of_some whole, bind_of_some (check_of_true nonempty)]
  rfl

theorem satisfying_cons {condition : Char → Bool} {c : Char} (holds : condition c = true)
    (behind : List Char)
    : satisfying condition (c :: behind) = some (c, behind) := by
  rw [satisfying, if_pos holds]

theorem satisfying_of_head {condition : Char → Bool}
    (stops : ∀ c ∈ text.head?, condition c = false)
    : satisfying condition text = none := by
  cases text with
  | nil => rfl
  | cons c behind => simp [satisfying, stops c rfl]

/-- A text that starts with another character does not start with the given ones. -/
theorem sees_of_head_ne {start : String} {first : Char} {others : List Char}
    (letters : start.toList = first :: others) (different : ∀ c ∈ text.head?, c ≠ first)
    : sees start text = some (false, text) := by
  cases text with
  | nil => simp [sees, letters]
  | cons c behind =>
      have apart : first ≠ c := (different c rfl).symm
      simp [sees, letters, List.isPrefixOf, apart]

theorem literal_of_head_ne {start : String} {first : Char} {others : List Char}
    (letters : start.toList = first :: others) (different : ∀ c ∈ text.head?, c ≠ first)
    : literal start text = none := by
  cases text with
  | nil => simp [literal, letters]
  | cons c behind =>
      have apart : first ≠ c := (different c rfl).symm
      simp [literal, letters, apart]

end Scanner

namespace Toml

open Scanner

variable {rest : List Char}

-----------------------------------------------------------------------------------------
-- Names
-----------------------------------------------------------------------------------------

theorem ne_of_isBare {c mark : Char} (bare : isBare c = true) (strange : isBare mark = false)
    : c ≠ mark := by
  rintro rfl
  exact Bool.false_ne_true (strange.symm.trans bare)

theorem isBlank_of_isBare {c : Char} (bare : isBare c = true) : isBlank c = false := by
  have space : c ≠ ' ' := ne_of_isBare bare rfl
  have tab : c ≠ '\t' := ne_of_isBare bare rfl
  simp [isBlank, space, tab]

/-- A name that is written without quotation marks. -/
structure Bare (name : String) : Prop where
  something : name.toList ≠ []
  letters : ∀ c ∈ name.toList, isBare c = true

theorem Bare.head {name : String} (bare : Bare name) (rest : List Char)
    : ∀ c ∈ (name.toList ++ rest).head?, isBare c = true := by
  intro c front
  cases letters : name.toList with
  | nil => exact absurd letters bare.something
  | cons first others =>
      rw [letters] at front
      cases front
      exact bare.letters c (by simp [letters])

/-- A bare name starts with no mark that would have to be quoted. -/
theorem Bare.head_ne {name : String} (bare : Bare name) {mark : Char}
    (strange : isBare mark = false) (rest : List Char)
    : ∀ c ∈ (name.toList ++ rest).head?, c ≠ mark :=
  fun c front => ne_of_isBare (bare.head rest c front) strange

theorem simpleName_of_bare {name : String} (bare : Bare name)
    (stops : ∀ c ∈ rest.head?, isBare c = false)
    : simpleName (name.toList ++ rest) = some (name, rest) := by
  have double : sees "\"" (name.toList ++ rest) = some (false, name.toList ++ rest) :=
    sees_of_head_ne rfl (bare.head_ne rfl rest)
  have single : sees "'" (name.toList ++ rest) = some (false, name.toList ++ rest) :=
    sees_of_head_ne rfl (bare.head_ne rfl rest)
  have taken := takeMany_append bare.something bare.letters stops
  rw [simpleName, bind_of_some double, if_neg Bool.false_ne_true, bind_of_some single,
    if_neg Bool.false_ne_true, bind_of_some taken, String.ofList_toList]
  rfl

/-- A bare name has a single step where no dot comes after it. -/
theorem dottedName_of_bare {name : String} (bare : Bare name)
    (stops : ∀ c ∈ rest.head?, isBare c = false) (behind : List Char)
    (blank : blanks rest = some ((), behind)) (single : ∀ c ∈ behind.head?, c ≠ '.')
    : dottedName (name.toList ++ rest) = some (([], name), rest) := by
  have step
      : (do
          blanks
          literal "."
          blanks
          simpleName : Scanner String) rest
        = none := by
    rw [bind_of_some blank, bind_of_none (literal_of_head_ne rfl single)]
  rw [dottedName, bind_of_some (simpleName_of_bare bare stops), bind_of_some (many_of_none step)]
  rfl

-----------------------------------------------------------------------------------------
-- Numbers
-----------------------------------------------------------------------------------------

/-- Digits, from the first on. -/
def Digits (letters : List Char) : Prop := ∀ c ∈ letters, c.isDigit = true

variable {letters : List Char}

/-- Digits that are followed by the end of a line start with no other character. -/
theorem Digits.head_ne (all : Digits letters) {mark : Char} (strange : mark.isDigit = false)
    (inside : mark ≠ '\n') (rest : List Char)
    : ∀ c ∈ (letters ++ '\n' :: rest).head?, c ≠ mark := by
  rintro c front rfl
  cases letters with
  | nil => exact inside (Option.some.inj front).symm
  | cons first others =>
      cases front
      exact Bool.false_ne_true (strange.symm.trans (all c (List.mem_cons_self ..)))

theorem Digits.literal_refuses (all : Digits letters) {start : String} {mark : Char}
    {others : List Char} (spelled : start.toList = mark :: others)
    (strange : mark.isDigit = false) (inside : mark ≠ '\n')
    : literal start (letters ++ '\n' :: rest) = none :=
  literal_of_head_ne spelled (all.head_ne strange inside rest)

theorem Digits.satisfying_refuses (all : Digits letters) {condition : Char → Bool}
    (digits : ∀ c : Char, c.isDigit = true → condition c = false)
    (line : condition '\n' = false)
    : satisfying condition (letters ++ '\n' :: rest) = none := by
  apply satisfying_of_head
  intro c front
  cases letters with
  | nil =>
      cases front
      exact line
  | cons first others =>
      cases front
      exact digits c (all c (List.mem_cons_self ..))

theorem Digits.sign (all : Digits letters)
    : Toml.sign (letters ++ '\n' :: rest) = some (false, letters ++ '\n' :: rest) := by
  have unsigned
      : satisfying (fun c => c = '+' || c = '-') (letters ++ '\n' :: rest) = none := by
    refine all.satisfying_refuses (fun c digit => Bool.eq_false_iff.mpr fun marked => ?_) rfl
    have mark : c = '+' ∨ c = '-' := by simpa using marked
    rcases mark with rfl | rfl <;> exact absurd digit (by decide)
  rw [Toml.sign, bind_of_some (attempt_of_none unsigned)]
  rfl

theorem Digits.digits (all : Digits letters) (something : letters ≠ [])
    : Toml.digits Char.isDigit (letters ++ '\n' :: rest) = some (letters, '\n' :: rest) := by
  cases letters with
  | nil => exact absurd rfl something
  | cons first others =>
      have front := satisfying_cons (all first (List.mem_cons_self ..)) (others ++ '\n' :: rest)
      have more
          : many (satisfying Char.isDigit <|> (do literal "_"; satisfying Char.isDigit))
              (others ++ '\n' :: rest)
            = some (others, '\n' :: rest) := by
        refine many_of_each others (fun c member behind => ?_) rfl
        exact orElse_of_some (satisfying_cons (all c (List.mem_cons_of_mem first member)) behind)
      rw [Toml.digits, List.cons_append, bind_of_some front, bind_of_some more]
      rfl

/-- A count of digits is refused, or the rest of the digits is left. -/
theorem Digits.fixedNumber (all : Digits letters) (rest : List Char) (count low high : Nat)
    : Toml.fixedNumber count low high (letters ++ '\n' :: rest) = none
      ∨ ∃ number,
          Toml.fixedNumber count low high (letters ++ '\n' :: rest)
          = some (number, letters.drop count ++ '\n' :: rest) := by
  rcases Nat.lt_or_ge letters.length count with few | enough
  · have refused : takeExactly count Char.isDigit (letters ++ '\n' :: rest) = none := by
      obtain ⟨more, missing⟩ : ∃ more, count - letters.length = more + 1 :=
        ⟨count - letters.length - 1, by omega⟩
      have line : '\n' ∈ (letters ++ '\n' :: rest).take count := by
        rw [List.take_append, missing, List.take_succ_cons]
        exact List.mem_append_right _ (List.mem_cons_self ..)
      refine if_neg fun whole => ?_
      rw [Bool.and_eq_true, List.all_eq_true] at whole
      exact absurd (whole.2 '\n' line) (by decide)
    exact .inl (bind_of_none refused _)
  · have taken
        : takeExactly count Char.isDigit (letters ++ '\n' :: rest)
          = some (letters.take count, letters.drop count ++ '\n' :: rest) := by
      have length : (letters.take count).length = count := List.length_take_of_le enough
      rw [takeExactly, List.take_append_of_le_length enough, List.drop_append_of_le_length enough]
      refine if_pos ?_
      simpa [length] using fun c member => all c (List.mem_of_mem_take member)
    rw [Toml.fixedNumber, bind_of_some taken]
    generalize digitsValue 10 (letters.take count) = number
    cases decide (low ≤ number) && decide (number ≤ high) with
    | false => exact .inl rfl
    | true => exact .inr ⟨number, rfl⟩

/-- Digits on a line are no date and no time. -/
theorem Digits.moment_refuses (all : Digits letters)
    : moment (letters ++ '\n' :: rest) = none := by
  have behind (count : Nat) : Digits (letters.drop count) := fun c member =>
    all c (List.mem_of_mem_drop member)
  have noDate : date (letters ++ '\n' :: rest) = none := by
    rcases all.fixedNumber rest 4 0 9999 with refused | ⟨year, taken⟩
    · rw [date, bind_of_none refused]
    · have dash : literal "-" (letters.drop 4 ++ '\n' :: rest) = none :=
        (behind 4).literal_refuses rfl (by decide) (by decide)
      rw [date, bind_of_some taken, bind_of_none dash]
  have noTime : time (letters ++ '\n' :: rest) = none := by
    rcases all.fixedNumber rest 2 0 23 with refused | ⟨hour, taken⟩
    · rw [time, bind_of_none refused]
    · have colon : literal ":" (letters.drop 2 ++ '\n' :: rest) = none :=
        (behind 2).literal_refuses rfl (by decide) (by decide)
      rw [time, bind_of_some taken, bind_of_none colon]
  rw [moment, orElse_of_none (bind_of_none noDate _), bind_of_none noTime]

theorem Digits.wholeDigits (all : Digits letters) (something : letters ≠ [])
    (canonical : letters.length = 1 ∨ letters.head? ≠ some '0')
    : Toml.wholeDigits (letters ++ '\n' :: rest) = some (letters, '\n' :: rest) := by
  have allowed : (letters.length = 1 || letters.head? ≠ some '0') = true := by
    simpa using canonical
  rw [Toml.wholeDigits, bind_of_some (all.digits something), bind_of_some (check_of_true allowed)]
  rfl

/-- Digits on a line are no number with places or an exponent. -/
theorem Digits.decimal_refuses (all : Digits letters) (something : letters ≠ [])
    (canonical : letters.length = 1 ∨ letters.head? ≠ some '0')
    : decimal (letters ++ '\n' :: rest) = none := by
  rw [decimal, bind_of_some all.sign, bind_of_some (all.wholeDigits something canonical)]
  rfl

theorem Digits.specialDecimal_refuses (all : Digits letters)
    : specialDecimal (letters ++ '\n' :: rest) = none := by
  have infinite : literal "inf" (letters ++ '\n' :: rest) = none :=
    all.literal_refuses rfl (by decide) (by decide)
  have strange : literal "nan" (letters ++ '\n' :: rest) = none :=
    all.literal_refuses rfl (by decide) (by decide)
  rw [specialDecimal, bind_of_some all.sign]
  apply bind_of_none
  rw [orElse_of_none (bind_of_none infinite _), bind_of_none strange]

/-- The value of digits in base ten. -/
theorem Digits.digitsValue (all : Digits letters)
    : Document.digitsValue 10 letters = Nat.ofDigitChars 10 letters 0 := by
  rw [Nat.ofDigitChars_eq_foldl, Document.digitsValue]
  apply List.foldl_ext
  intro value c member
  rw [Nat.mul_comm, Document.digitsValue.digit, if_pos (all c member)]

/-- Digits on a line have no mark of a base in front. -/
theorem Digits.sees_base (all : Digits letters) (start : String) (mark : Char)
    (spelled : start.toList = ['0', mark]) (strange : mark.isDigit = false)
    (inside : mark ≠ '\n') (rest : List Char)
    : sees start (letters ++ '\n' :: rest) = some (false, letters ++ '\n' :: rest) := by
  cases letters with
  | nil => exact sees_of_head_ne spelled (by rintro c ⟨⟩; decide)
  | cons first others =>
      have behind : Digits others := fun c member => all c (List.mem_cons_of_mem first member)
      have second : [mark].isPrefixOf (others ++ '\n' :: rest) = false := by
        have apart := behind.head_ne strange inside rest
        cases next : others ++ '\n' :: rest with
        | nil => rfl
        | cons c more =>
            rw [next] at apart
            simpa [List.isPrefixOf] using (apart c rfl).symm
      simp [sees, spelled, List.isPrefixOf, second]

theorem Digits.decimalInteger (all : Digits letters) (something : letters ≠ [])
    (canonical : letters.length = 1 ∨ letters.head? ≠ some '0')
    (small : Nat.ofDigitChars 10 letters 0 < 2 ^ 63)
    : Toml.decimalInteger (letters ++ '\n' :: rest)
      = some (.integer (Nat.ofDigitChars 10 letters 0), '\n' :: rest) := by
  rw [Toml.decimalInteger, bind_of_some all.sign,
    bind_of_some (all.wholeDigits something canonical), all.digitsValue]
  generalize Nat.ofDigitChars 10 letters 0 = number at small
  have least : Int64.minValue.toInt = -2 ^ 63 := by decide
  have most : Int64.maxValue.toInt = 2 ^ 63 - 1 := by decide
  have within
      : (decide (Int64.minValue.toInt ≤ (number : Int))
          && decide ((number : Int) ≤ Int64.maxValue.toInt)) = true := by
    rw [least, most, Bool.and_eq_true, decide_eq_true_eq, decide_eq_true_eq]
    omega
  exact bind_of_some (check_of_true within) _

/-- Digits on a line are a whole number when it is small enough. -/
theorem Digits.integer (all : Digits letters) (something : letters ≠ [])
    (canonical : letters.length = 1 ∨ letters.head? ≠ some '0')
    (small : Nat.ofDigitChars 10 letters 0 < 2 ^ 63)
    : Toml.integer (letters ++ '\n' :: rest)
      = some (.integer (Nat.ofDigitChars 10 letters 0), '\n' :: rest) := by
  rw [Toml.integer, bind_of_some (all.sees_base "0x" 'x' rfl (by decide) (by decide) rest),
    if_neg Bool.false_ne_true, bind_of_some (all.sees_base "0o" 'o' rfl (by decide) (by decide) rest),
    if_neg Bool.false_ne_true, bind_of_some (all.sees_base "0b" 'b' rfl (by decide) (by decide) rest),
    if_neg Bool.false_ne_true]
  exact all.decimalInteger something canonical small

theorem Digits.numberOrMoment (all : Digits letters) (something : letters ≠ [])
    (canonical : letters.length = 1 ∨ letters.head? ≠ some '0')
    (small : Nat.ofDigitChars 10 letters 0 < 2 ^ 63)
    : Toml.numberOrMoment (letters ++ '\n' :: rest)
      = some (.integer (Nat.ofDigitChars 10 letters 0), '\n' :: rest) := by
  rw [Toml.numberOrMoment, orElse_of_none all.moment_refuses,
    orElse_of_none (all.decimal_refuses something canonical),
    orElse_of_none all.specialDecimal_refuses]
  exact all.integer something canonical small

/-- The digits of a number start with a zero only if there is no other one. -/
theorem head_toDigits (number : Nat)
    : (Nat.toDigits 10 number).length = 1 ∨ (Nat.toDigits 10 number).head? ≠ some '0' := by
  induction number using Nat.strongRecOn with
  | ind number ih =>
      rw [Nat.toDigits_eq_if (by decide)]
      split
      · exact .inl rfl
      · rename_i large
        refine .inr ?_
        rw [List.head?_append_of_ne_nil _ Nat.toDigits_ne_nil]
        rcases ih (number / 10) (by omega) with single | other
        · have digit : number / 10 < 10 := by
            rw [← Nat.pow_one 10]
            exact (Nat.length_toDigits_le_iff (by decide) (by decide)).mp (Nat.le_of_eq single)
          rw [Nat.toDigits_of_lt_base digit]
          have positive : 0 < number / 10 := by omega
          generalize number / 10 = first at digit positive
          revert first
          decide
        · exact other

-----------------------------------------------------------------------------------------
-- Values
-----------------------------------------------------------------------------------------

/-- Letters that are read as a value when the line ends after them. -/
structure Spells (letters : List Char) (value : Value) : Prop where
  nonblank : ∀ c ∈ (letters ++ ['\n']).head?, isBlank c = false
  reads
    : ∀ depth rest,
        valueWithin depth (letters ++ '\n' :: rest) = some (value, '\n' :: rest)

theorem spells_true : Spells "true".toList (.bool true) where
  nonblank := by rintro c ⟨⟩; rfl
  reads depth rest := by
    unfold valueWithin
    rfl

theorem spells_false : Spells "false".toList (.bool false) where
  nonblank := by rintro c ⟨⟩; rfl
  reads depth rest := by
    unfold valueWithin
    rfl

/-- A value that starts with a digit is a number, a date or a time. -/
theorem valueWithin_of_digit {c : Char} (digit : c.isDigit = true) (depth : Nat)
    (behind : List Char)
    : valueWithin depth (c :: behind) = numberOrMoment (c :: behind) := by
  have front : peek? (c :: behind) = some (some c, c :: behind) := rfl
  unfold valueWithin
  split
  all_goals
    rw [bind_of_some front]
    refine congrFun (?_ : _ = numberOrMoment) (c :: behind)
    split
    all_goals first
      | rfl
      | rename_i same
        cases same
        exact absurd digit (by decide)

theorem spells_number {number : Nat} (small : number < 2 ^ 63)
    : Spells (Nat.toDigits 10 number) (.integer number) := by
  have all : Digits (Nat.toDigits 10 number) := fun c member =>
    Nat.isDigit_of_mem_toDigits (by decide) (by decide) member
  have value : Nat.ofDigitChars 10 (Nat.toDigits 10 number) 0 = number :=
    Nat.ofDigitChars_ten_toDigits
  have something : Nat.toDigits 10 number ≠ [] := Nat.toDigits_ne_nil
  have canonical := head_toDigits number
  generalize Nat.toDigits 10 number = letters at all value something canonical
  cases letters with
  | nil => exact absurd rfl something
  | cons first others =>
      have digit := all first (List.mem_cons_self ..)
      refine ⟨?_, fun depth rest => ?_⟩
      · rintro c ⟨⟩
        exact isBlank_of_isBare (by simp [isBare, Char.isAlphanum, digit])
      · rw [List.cons_append, valueWithin_of_digit digit, ← List.cons_append,
          all.numberOrMoment something canonical (by rwa [value]), value]

/-- A text without quotation marks and backslashes is read between double quotation marks. -/
theorem spells_text {text : String} (something : text.toList ≠ [])
    (basic : ∀ c ∈ text.toList, isBasic c = true)
    : Spells ('"' :: text.toList ++ ['"']) (.text text) where
  nonblank := by rintro c ⟨⟩; decide
  reads depth rest := by
    have apart : ∀ c ∈ text.toList, c ≠ '"' := by
      rintro c member rfl
      exact absurd (basic _ member) (by decide)
    let written := text.toList ++ '"' :: '\n' :: rest
    have long : sees "\"\"\"" ('"' :: written) = some (false, '"' :: written) := by
      cases letters : text.toList with
      | nil => exact absurd letters something
      | cons first others =>
          have different := (apart first (by simp [letters])).symm
          simp [sees, List.isPrefixOf, written, letters, different]
    have other : sees "'''" ('"' :: written) = some (false, '"' :: written) :=
      sees_of_head_ne rfl (by rintro c ⟨⟩; decide)
    have short : sees "\"" ('"' :: written) = some (true, '"' :: written) := rfl
    have mark (behind : List Char) : literal "\"" ('"' :: behind) = some ((), behind) := rfl
    have inside
        : many (satisfying isBasic <|> (do literal "\\"; escape)) written
          = some (text.toList, '"' :: '\n' :: rest) := by
      refine many_of_each _ (fun c member behind => ?_) rfl
      exact orElse_of_some (satisfying_cons (basic c member) behind)
    have whole : string ('"' :: written) = some (text, '\n' :: rest) := by
      rw [string, bind_of_some long, if_neg Bool.false_ne_true, bind_of_some other,
        if_neg Bool.false_ne_true, bind_of_some short, if_pos rfl, basicString,
        bind_of_some (mark written), bind_of_some inside, bind_of_some (mark _),
        String.ofList_toList]
      rfl
    have front : peek? ('"' :: written) = some (some '"', '"' :: written) := rfl
    rw [List.append_assoc, List.cons_append]
    unfold valueWithin
    split
    all_goals exact (bind_of_some front _).trans (bind_of_some whole _)

-----------------------------------------------------------------------------------------
-- Lines
-----------------------------------------------------------------------------------------

theorem blanks_of_head (nonblank : ∀ c ∈ rest.head?, isBlank c = false)
    : blanks rest = some ((), rest) := by
  cases rest with
  | nil => rfl
  | cons c behind =>
      have none : takeWhile isBlank (c :: behind) = some ([], c :: behind) := by
        simp [takeWhile, nonblank c rfl]
      rw [blanks, bind_of_some none]
      rfl

theorem blanks_of_space : blanks (' ' :: rest) = blanks rest := rfl

/-- A name, an equals sign and a value on a line of their own. -/
def entryLine (name : String) (letters : List Char) : List Char :=
  name.toList ++ ' ' :: '=' :: ' ' :: (letters ++ ['\n'])

/-- A name in square brackets on a line of its own. -/
def headerLine (name : String) : List Char := '[' :: (name.toList ++ [']', '\n'])

/-- An entry is read up to the end of its line. -/
theorem namedValue_entry {name : String} (bare : Bare name) {letters : List Char} {value : Value}
    (spells : Spells letters value) (depth : Nat) (rest : List Char)
    : namedValue (valueWithin depth)
        (name.toList ++ ' ' :: '=' :: ' ' :: (letters ++ '\n' :: rest))
      = some ((([], name), value), '\n' :: rest) := by
  let written := letters ++ '\n' :: rest
  have named
      : dottedName (name.toList ++ ' ' :: '=' :: ' ' :: written)
        = some (([], name), ' ' :: '=' :: ' ' :: written) :=
    dottedName_of_bare bare (by rintro c ⟨⟩; decide) ('=' :: ' ' :: written) rfl
      (by rintro c ⟨⟩; decide)
  have before : blanks (' ' :: '=' :: ' ' :: written) = some ((), '=' :: ' ' :: written) := rfl
  have sign : literal "=" ('=' :: ' ' :: written) = some ((), ' ' :: written) := rfl
  have after : blanks (' ' :: written) = some ((), written) := by
    have nonblank : ∀ c ∈ written.head?, isBlank c = false := by
      intro c front
      apply spells.nonblank c
      cases letters <;> exact front
    rw [blanks_of_space, blanks_of_head nonblank]
  rw [namedValue, bind_of_some named, bind_of_some before, bind_of_some sign, bind_of_some after,
    bind_of_some (spells.reads depth rest)]
  rfl

theorem line_entry {name : String} (bare : Bare name) {letters : List Char} {value : Value}
    (spells : Spells letters value) {progress next : Progress}
    (adds : progress.addLine? [] name value = some next) (rest : List Char)
    : line progress (entryLine name letters ++ rest) = some (next, rest) := by
  let written := name.toList ++ ' ' :: '=' :: ' ' :: (letters ++ '\n' :: rest)
  have same : entryLine name letters ++ rest = written := by
    simp [entryLine, written]
  have apart : ∀ c ∈ written.head?, c ≠ '[' := bare.head_ne rfl _
  have double : sees "[[" written = some (false, written) := sees_of_head_ne rfl apart
  have single : sees "[" written = some (false, written) := sees_of_head_ne rfl apart
  have entry := namedValue_entry bare spells deepestNesting rest
  have ending : restOfLine ('\n' :: rest) = some ((), rest) := rfl
  rw [same, line, bind_of_some double, bind_of_some single]
  dsimp only
  rw [if_neg Bool.false_ne_true, if_neg Bool.false_ne_true, bind_of_some entry]
  dsimp only
  rw [adds, pure_bind, bind_of_some ending]
  rfl

theorem line_header {name : String} (bare : Bare name) {progress next : Progress}
    (opens : progress.openTable? [name] = some next) (rest : List Char)
    : line progress (headerLine name ++ rest) = some (next, rest) := by
  let written := name.toList ++ ']' :: '\n' :: rest
  have same : headerLine name ++ rest = '[' :: written := by simp [headerLine, written]
  have apart : ∀ c ∈ written.head?, c ≠ '[' := bare.head_ne rfl _
  have nonblank : ∀ c ∈ written.head?, isBlank c = false := fun c front =>
    isBlank_of_isBare (bare.head _ c front)
  have double : sees "[[" ('[' :: written) = some (false, '[' :: written) := by
    cases front : written with
    | nil => rfl
    | cons c behind =>
        have different := (apart c (by simp [front])).symm
        simp [sees, List.isPrefixOf, different]
  have single : sees "[" ('[' :: written) = some (true, '[' :: written) := rfl
  have opening : literal "[" ('[' :: written) = some ((), written) := rfl
  have named : dottedName written = some (([], name), ']' :: '\n' :: rest) :=
    dottedName_of_bare bare (by rintro c ⟨⟩; decide) (']' :: '\n' :: rest) rfl
      (by rintro c ⟨⟩; decide)
  have space : blanks (']' :: '\n' :: rest) = some ((), ']' :: '\n' :: rest) := rfl
  have closing : literal "]" (']' :: '\n' :: rest) = some ((), '\n' :: rest) := rfl
  have ending : restOfLine ('\n' :: rest) = some ((), rest) := rfl
  rw [same, line, bind_of_some double, bind_of_some single]
  dsimp only
  rw [if_neg Bool.false_ne_true, if_pos rfl, bind_of_some opening,
    bind_of_some (blanks_of_head nonblank), bind_of_some named]
  dsimp only
  rw [bind_of_some space, bind_of_some closing]
  have opened : progress.openTable? ([] ++ [name]) = some next := opens
  rw [opened, pure_bind, bind_of_some ending]
  rfl

end Toml

end MutationTesting.Document
