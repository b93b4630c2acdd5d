import MutationTesting.Decimal.Shortest
import MutationTesting.Document.Value
import MutationTesting.Text.Quoted

/-!
Writing JSON over several lines, with two blanks for every level.
-/

namespace MutationTesting.Document.Json

/-- A character of a string: only quotation marks, backslashes and controls are escaped. -/
def escapeChar (c : Char) : String :=
  match c with
  | '"' => "\\\""
  | '\\' => "\\\\"
  | '\x08' => "\\b"
  | '\x0c' => "\\f"
  | '\n' => "\\n"
  | '\r' => "\\r"
  | '\t' => "\\t"
  | c =>
      if c.toNat < 0x20 then
        "\\u00" ++ (if c.toNat < 0x10 then "0" else "") ++ Text.hex c.toNat
      else
        c.toString

def writeString (text : String) : String :=
  "\"" ++ String.join (text.toList.map escapeChar) ++ "\""

/-- A decimal; values that are no numbers are written as null. -/
def writeDecimal (value : Float) : String :=
  if value.isFinite then Decimal.render value else "null"

/-- The start of a line at a level. -/
def indent (level : Nat) : String := "\n" ++ String.ofList (List.replicate (2 * level) ' ')

mutual

/-- A value that starts on a line of the given level. -/
def write (level : Nat) : Value → String
  | .null | .moment | .unreadable => "null"
  | .bool value => if value then "true" else "false"
  | .integer value => toString value
  | .decimal value => writeDecimal value
  | .text value => writeString value
  | .list items =>
      match items with
      | [] => "[]"
      | first :: rest =>
          "[" ++ indent (level + 1) ++ write (level + 1) first ++ writeItems (level + 1) rest
            ++ indent level ++ "]"
  | .table entries =>
      match entries with
      | [] => "\x7b\x7d"
      | (name, value) :: rest =>
          "\x7b" ++ indent (level + 1) ++ writeString name ++ ": " ++ write (level + 1) value
            ++ writeEntries (level + 1) rest ++ indent level ++ "\x7d"

/-- The items of a list after the first one. -/
def writeItems (level : Nat) : List Value → String
  | [] => ""
  | item :: rest => "," ++ indent level ++ write level item ++ writeItems level rest

/-- The entries of a table after the first one. -/
def writeEntries (level : Nat) : List (String × Value) → String
  | [] => ""
  | (name, value) :: rest =>
      "," ++ indent level ++ writeString name ++ ": " ++ write level value
        ++ writeEntries level rest

end

end MutationTesting.Document.Json
