import MutationTesting.Text.Extender
import MutationTesting.Text.Unprintable

/-!
Quoted text and its escapes, as values are shown in diagnostic output. Quotation marks,
backslashes and the usual controls have short escapes; whatever has no glyph, or would melt
into the quotation mark before it, is written by its number.
-/

namespace MutationTesting.Text

/-- Lower-case hexadecimal digits of a number, at least one. -/
def hex (n : Nat) : String := String.ofList (Nat.toDigits 16 n)

/-- The escape of a character by its number. -/
def numberEscape (c : Char) : String := "\\u\x7b" ++ hex c.toNat ++ "\x7d"

/-- A character inside quotation marks of the given kind: the other kind stays as it is. -/
def escape (mark c : Char) : String :=
  if c = '\x00' then "\\0"
  else if c = '\t' then "\\t"
  else if c = '\r' then "\\r"
  else if c = '\n' then "\\n"
  else if c = '\\' then "\\\\"
  else if c = mark then "\\" ++ mark.toString
  else if isExtender c || isUnprintable c then numberEscape c
  else c.toString

/-- A text in double quotation marks. -/
def quote (text : String) : String :=
  "\"" ++ String.join (text.toList.map (escape '"')) ++ "\""

/-- A character in single quotation marks. -/
def quoteChar (c : Char) : String := "'" ++ escape '\'' c ++ "'"

/-- Items in square brackets, separated by commas. -/
def bracketed (items : List String) : String := "[" ++ ", ".intercalate items ++ "]"

/-- An optional value by its name, or the word for none. -/
def optional (value : Option String) : String :=
  match value with
  | some text => "Some(" ++ text ++ ")"
  | none => "None"

end MutationTesting.Text
