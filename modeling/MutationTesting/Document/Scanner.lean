/-!
Readers of text from left to right. A reader takes characters from the front of the text and
answers, or refuses and takes nothing.
-/

namespace MutationTesting.Document

/-- A reader of text. -/
abbrev Scanner (α : Type) : Type := StateT (List Char) Option α

namespace Scanner

def refuse : Scanner α := fun _ => none

/-- Refuses unless a condition holds. -/
def check (condition : Bool) : Scanner Unit := if condition then pure () else refuse

/-- The next character, which stays in the text; none at the end. -/
def peek? : Scanner (Option Char) := fun text => some (text.head?, text)

/-- Tells whether the rest starts with the given characters. -/
def sees (start : String) : Scanner Bool := fun text =>
  some (start.toList.isPrefixOf text, text)

/-- Takes one character that satisfies a condition. -/
def satisfying (condition : Char → Bool) : Scanner Char
  | [] => none
  | c :: rest => if condition c then some (c, rest) else none

def literal (start : String) : Scanner Unit := fun text =>
  if start.toList.isPrefixOf text then some ((), text.drop start.length) else none

/-- Takes all characters up to the first that does not satisfy a condition. -/
def takeWhile (condition : Char → Bool) : Scanner (List Char) := fun text =>
  some (text.takeWhile condition, text.dropWhile condition)

def takeMany (condition : Char → Bool) : Scanner (List Char) := do
  let taken ← takeWhile condition
  check !taken.isEmpty
  pure taken

def takeExactly (count : Nat) (condition : Char → Bool) : Scanner (List Char) := fun text =>
  let taken := text.take count
  if taken.length = count && taken.all condition then some (taken, text.drop count) else none

/-- The answer of a reader, or none where it refuses. -/
def attempt (reader : Scanner α) : Scanner (Option α) := fun text =>
  match reader text with
  | some (answer, rest) => some (some answer, rest)
  | none => some (none, text)

/-- Repeats a reader until it refuses, at most as often as the budget says. -/
def manyWithin (reader : Scanner α) : (budget : Nat) → Scanner (List α)
  | 0 => pure []
  | budget + 1 => do
      match ← attempt reader with
      | none => pure []
      | some answer => do
          let answers ← manyWithin reader budget
          pure (answer :: answers)

/-- Repeats a reader that takes at least one character until it refuses. -/
def many (reader : Scanner α) : Scanner (List α) := fun text =>
  manyWithin reader (text.length + 1) text

/-- Refuses unless the text has ended. -/
def finish : Scanner Unit := fun text => if text.isEmpty then some ((), text) else none

/-- What a reader answers for a whole text. -/
def run? (reader : Scanner α) (text : List Char) : Option α :=
  (reader text).map (·.1)

end Scanner

/-- The number that digits spell in a base, highest digit first. -/
def digitsValue (base : Nat) (digits : List Char) : Nat :=
  digits.foldl (fun value c => value * base + digit c) 0
where
  /-- The value of one digit, up to the letter f. -/
  digit (c : Char) : Nat :=
    if c.isDigit then c.toNat - '0'.toNat
    else if c.isUpper then c.toNat - 'A'.toNat + 10
    else c.toNat - 'a'.toNat + 10

def isHexDigit (c : Char) : Bool :=
  c.isDigit || ('a' ≤ c && c ≤ 'f') || ('A' ≤ c && c ≤ 'F')

end MutationTesting.Document
