import MutationTesting.Decimal.Binary
import MutationTesting.Document.Scanner
import MutationTesting.Document.Value

/-!
Reading JSON. Whole numbers of up to 64 bits are integers and all other numbers are decimals.
A string with half of a surrogate pair is well formed, but cannot be read; neither can an
object with such a name.
-/

namespace MutationTesting.Document.Json

open Scanner

def isBlank (c : Char) : Bool := c = ' ' || c = '\t' || c = '\n' || c = '\r'

def blanks : Scanner Unit := do
  let _ ← takeWhile isBlank
  pure ()

/-- The character that a short escape stands for. -/
def shortEscape? : Char → Option Char
  | '"' => some '"'
  | '\\' => some '\\'
  | '/' => some '/'
  | 'b' => some '\x08'
  | 'f' => some '\x0c'
  | 'n' => some '\n'
  | 'r' => some '\r'
  | 't' => some '\t'
  | _ => none

/-- One character of a string, as its number. An escape by number may be half of a pair. -/
def stringUnit : Scanner Nat := do
  let c ← satisfying fun c => c ≠ '"' && c.toNat ≥ 0x20
  if c ≠ '\\' then
    pure c.toNat
  else
    let kind ← satisfying fun _ => true
    if kind = 'u' then
      let digits ← takeExactly 4 isHexDigit
      pure (digitsValue 16 digits)
    else
      match shortEscape? kind with
      | some c => pure c.toNat
      | none => refuse

/-- Joins the halves of surrogate pairs; none where a half stands alone. -/
def joinSurrogates : List Nat → Option (List Char)
  | [] => some []
  | high :: low :: rest =>
      if 0xD800 ≤ high ∧ high < 0xDC00 ∧ 0xDC00 ≤ low ∧ low < 0xE000 then do
        let joined := 0x10000 + (high - 0xD800) * 0x400 + (low - 0xDC00)
        pure (Char.ofNat joined :: (← joinSurrogates rest))
      else if 0xD800 ≤ high ∧ high < 0xE000 then
        none
      else do
        pure (Char.ofNat high :: (← joinSurrogates (low :: rest)))
  | [last] => if 0xD800 ≤ last ∧ last < 0xE000 then none else some [Char.ofNat last]

/-- A string; none when it cannot be read. -/
def string : Scanner (Option String) := do
  literal "\""
  let units ← many stringUnit
  literal "\""
  pure ((joinSurrogates units).map String.ofList)

def numberValue (negative : Bool) (whole : List Char) (places : Option (List Char))
    (exponent : Option Int)
    : Value :=
  let magnitude := digitsValue 10 whole
  let isWhole := places.isNone && exponent.isNone
  if isWhole && !negative && magnitude < UInt64.size then
    .integer magnitude
  else if isWhole && negative && 0 < magnitude && -magnitude ≥ Int64.minValue.toInt then
    .integer (-magnitude)
  else
    let places := places.getD []
    .decimal
      (Decimal.toFloat negative (digitsValue 10 (whole ++ places))
        (exponent.getD 0 - places.length))

def exponentPart : Scanner Int := do
  let _ ← satisfying fun c => c = 'e' || c = 'E'
  let sign ← attempt (satisfying fun c => c = '+' || c = '-')
  let digits ← takeMany Char.isDigit
  let magnitude : Int := digitsValue 10 digits
  pure (if sign = some '-' then -magnitude else magnitude)

/-- A number: no zero stands in front of other digits. -/
def number : Scanner Value := do
  let negative := (← attempt (literal "-")).isSome
  let whole ← takeMany Char.isDigit
  check (whole.length = 1 || whole.head? ≠ some '0')
  let places ← do
    if ← sees "." then
      literal "."
      pure (some (← takeMany Char.isDigit))
    else
      pure none
  let exponent ← do
    if (← sees "e") || (← sees "E") then
      pure (some (← exponentPart))
    else
      pure none
  pure (numberValue negative whole places exponent)

/-- An object of named values, which cannot be read when one of the names cannot. -/
def ofMembers (members : List (Option String × Value)) : Value :=
  match members.mapM fun member => member.1.map (·, member.2) with
  | some entries => .table entries
  | none => .unreadable

/-- Items with commas between them up to a closing bracket; the opening one has been taken. -/
def separated (item : Scanner α) (close : String) : Scanner (List α) := do
  blanks
  if (← attempt (literal close)).isSome then
    pure []
  else
    let first ← item
    let others ← many do
      blanks
      literal ","
      item
    blanks
    literal close
    pure (first :: others)

/-- A value with the blanks in front of it, nested at most to the given depth. -/
def valueWithin : (depth : Nat) → Scanner Value
  | 0 => refuse
  | depth + 1 => do
      blanks
      match ← peek? with
      | some '"' => do
          match ← string with
          | some text => pure (.text text)
          | none => pure .unreadable
      | some '[' => do
          literal "["
          pure (.list (← separated (valueWithin depth) "]"))
      | some '{' => do
          literal "\x7b"
          let member : Scanner (Option String × Value) := do
            blanks
            let name ← string
            blanks
            literal ":"
            pure (name, ← valueWithin depth)
          pure (ofMembers (← separated member "\x7d"))
      | some 't' => do
          literal "true"
          pure (.bool true)
      | some 'f' => do
          literal "false"
          pure (.bool false)
      | some 'n' => do
          literal "null"
          pure .null
      | _ => number

/-- The value that a text spells, with nothing but blanks around it. -/
def read? (text : String) : Option Value :=
  let whole : Scanner Value := do
    let value ← valueWithin text.length
    blanks
    finish
    pure value
  whole.run? text.toList

end MutationTesting.Document.Json
