import MutationTesting.Decimal.Binary
import MutationTesting.Document.Scanner
import MutationTesting.Document.TomlTree

/-!
Reading TOML documents, line by line: blank lines, comments, headers and named values.
-/

namespace MutationTesting.Document.Toml

open Scanner

/-- How deep lists and inline tables may nest, and how many steps a dotted name may have. -/
def deepestNesting : Nat := 79

/-- A character that text may contain besides those of ASCII. -/
def isWide (c : Char) : Bool := c.toNat ≥ 0x80

/-- Blanks within a line. -/
def isBlank (c : Char) : Bool := c = ' ' || c = '\t'

def blanks : Scanner Unit := do
  let _ ← takeWhile isBlank
  pure ()

def lineBreak : Scanner Unit := literal "\n" <|> literal "\r\n"

/-- The end of a line or of the text. -/
def lineEnd : Scanner Unit := lineBreak <|> finish

/-- A comment up to the end of its line, which stays in the text. -/
def comment : Scanner Unit := do
  literal "#"
  let _ ← takeWhile fun c => c = '\t' || (' ' ≤ c && c ≤ '~') || isWide c
  pure ()

/-- What may follow on a line when everything has been said. -/
def restOfLine : Scanner Unit := do
  blanks
  let _ ← attempt comment
  lineEnd

/-- Blanks, line breaks and comments between the items of a list. -/
def filler : Scanner Unit := do
  let _ ← many ((do let _ ← satisfying isBlank; pure ()) <|> lineBreak
    <|> (do comment; lineBreak))
  pure ()

/-- The character that digits stand for, in an escape by number. -/
def numberEscape (count : Nat) : Scanner Char := do
  let value := digitsValue 16 (← takeExactly count isHexDigit)
  check (value < 0xD800 || (0xE000 ≤ value && value ≤ 0x10FFFF))
  pure (Char.ofNat value)

/-- An escape; the backslash has been taken. -/
def escape : Scanner Char := do
  match ← satisfying fun _ => true with
  | 'b' => pure '\x08'
  | 'f' => pure '\x0c'
  | 'n' => pure '\n'
  | 'r' => pure '\r'
  | 't' => pure '\t'
  | 'u' => numberEscape 4
  | 'U' => numberEscape 8
  | '"' => pure '"'
  | '\\' => pure '\\'
  | _ => refuse

/-- A character that stands for itself between double quotation marks. -/
def isBasic (c : Char) : Bool :=
  isBlank c || ('!' ≤ c && c ≤ '~' && c ≠ '"' && c ≠ '\\') || isWide c

/-- A character that stands for itself between single quotation marks. -/
def isLiteral (c : Char) : Bool :=
  c = '\t' || (' ' ≤ c && c ≤ '~' && c ≠ '\'') || isWide c

def basicString : Scanner String := do
  literal "\""
  let text ← many (satisfying isBasic <|> (do literal "\\"; escape))
  literal "\""
  pure (String.ofList text)

def literalString : Scanner String := do
  literal "'"
  let text ← takeWhile isLiteral
  literal "'"
  pure (String.ofList text)

/-- A backslash at the end of a line, which joins the line to the next one that has text. -/
def lineJoin : Scanner Unit := do
  literal "\\"
  blanks
  lineBreak
  let _ ← many ((do let _ ← satisfying isBlank; pure ()) <|> lineBreak)
  pure ()

/-- The marks at the end of a string over several lines: up to two more than the three that
close it belong to the text.
-/
def closingMarks (mark : Char) : Scanner (List Char) := do
  let marks ← takeWhile (· = mark)
  check (3 ≤ marks.length && marks.length ≤ 5)
  pure (marks.drop 3)

/-- One or two marks inside a string over several lines. -/
def innerMarks (mark : Char) : Scanner (List Char) := do
  let marks ← takeWhile (· = mark)
  check (1 ≤ marks.length && marks.length ≤ 2)
  pure marks

/-- A string over several lines with marks of the given kind and pieces as given. -/
def longString (mark : Char) (piece : Scanner (List Char)) : Scanner String := do
  literal (String.ofList [mark, mark, mark])
  let _ ← attempt lineBreak
  let pieces ← many (piece <|> (do lineBreak; pure ['\n']) <|> innerMarks mark)
  let rest ← closingMarks mark
  pure (String.ofList (pieces.flatten ++ rest))

def longBasicString : Scanner String :=
  longString '"'
    ((do pure [← satisfying isBasic]) <|> (do lineJoin; pure [])
      <|> (do literal "\\"; pure [← escape]))

def longLiteralString : Scanner String :=
  longString '\'' (do pure [← satisfying isLiteral])

/-- A string of any of the four kinds. -/
def string : Scanner String := do
  if ← sees "\"\"\"" then longBasicString
  else if ← sees "'''" then longLiteralString
  else if ← sees "\"" then basicString
  else literalString

/-- A character of a name that is not quoted. -/
def isBare (c : Char) : Bool := c.isAlphanum || c = '-' || c = '_'

/-- One step of a name. -/
def simpleName : Scanner String := do
  if ← sees "\"" then basicString
  else if ← sees "'" then literalString
  else pure (String.ofList (← takeMany isBare))

/-- A name of one or more steps: those before the last one, and the last one. -/
def dottedName : Scanner (List String × String) := do
  let first ← simpleName
  let others ← many do
    blanks
    literal "."
    blanks
    simpleName
  let steps := first :: others
  check (steps.length ≤ deepestNesting)
  pure (steps.dropLast, steps.getLastD first)

/-- Digits of a kind, where single underscores may stand between two of them. -/
def digits (isDigit : Char → Bool) : Scanner (List Char) := do
  let first ← satisfying isDigit
  let others ← many (satisfying isDigit <|> (do literal "_"; satisfying isDigit))
  pure (first :: others)

/-- The sign of a number: true for a minus. -/
def sign : Scanner Bool := do
  let mark ← attempt (satisfying fun c => c = '+' || c = '-')
  pure (mark = some '-')

/-- Decimal digits without a zero in front of others. -/
def wholeDigits : Scanner (List Char) := do
  let whole ← digits Char.isDigit
  check (whole.length = 1 || whole.head? ≠ some '0')
  pure whole

/-- A number with places, an exponent or both. Numbers too large for any value are refused. -/
def decimal : Scanner Value := do
  let negative ← sign
  let whole ← wholeDigits
  let places ← attempt do
    literal "."
    digits Char.isDigit
  let exponent ← attempt do
    let _ ← satisfying fun c => c = 'e' || c = 'E'
    let isBelow ← sign
    let size ← digits Char.isDigit
    let magnitude : Int := digitsValue 10 size
    pure (if isBelow then -magnitude else magnitude)
  check (places.isSome || exponent.isSome)
  let places := places.getD []
  let value :=
    Decimal.toFloat negative (digitsValue 10 (whole ++ places))
      (exponent.getD 0 - places.length)
  check (value != 1.0 / 0.0)
  pure (.decimal value)

/-- An infinity or a value that is no number, with a sign. -/
def specialDecimal : Scanner Value := do
  let negative ← sign
  let value : Float ←
    (do literal "inf"; pure (1.0 / 0.0)) <|> (do literal "nan"; pure (0.0 / 0.0))
  pure (.decimal (if negative then -value else value))

/-- A whole number of a base with a mark in front. -/
def basedInteger (mark : String) (base : Nat) (isDigit : Char → Bool) : Scanner Value := do
  literal mark
  let value := digitsValue base (← digits isDigit)
  check (value ≤ Int64.maxValue.toInt)
  pure (.integer value)

/-- A whole number of up to 64 bits. -/
def decimalInteger : Scanner Value := do
  let negative ← sign
  let magnitude : Int := digitsValue 10 (← wholeDigits)
  let value := if negative then -magnitude else magnitude
  check (Int64.minValue.toInt ≤ value && value ≤ Int64.maxValue.toInt)
  pure (.integer value)

def integer : Scanner Value := do
  if ← sees "0x" then basedInteger "0x" 16 isHexDigit
  else if ← sees "0o" then basedInteger "0o" 8 fun c => '0' ≤ c && c ≤ '7'
  else if ← sees "0b" then basedInteger "0b" 2 fun c => c = '0' || c = '1'
  else decimalInteger

/-- A number of a fixed count of digits within bounds. -/
def fixedNumber (count low high : Nat) : Scanner Nat := do
  let value := digitsValue 10 (← takeExactly count Char.isDigit)
  check (low ≤ value && value ≤ high)
  pure value

def isLeapYear (year : Nat) : Bool :=
  year % 4 = 0 && (year % 100 ≠ 0 || year % 400 = 0)

def monthDays (year month : Nat) : Nat :=
  if month = 2 then if isLeapYear year then 29 else 28
  else if month = 4 ∨ month = 6 ∨ month = 9 ∨ month = 11 then 30
  else 31

def date : Scanner Unit := do
  let year ← fixedNumber 4 0 9999
  literal "-"
  let month ← fixedNumber 2 1 12
  literal "-"
  let _ ← fixedNumber 2 1 (monthDays year month)
  pure ()

/-- A time of day; a minute may have a leap second. -/
def time : Scanner Unit := do
  let _ ← fixedNumber 2 0 23
  literal ":"
  let _ ← fixedNumber 2 0 59
  literal ":"
  let _ ← fixedNumber 2 0 60
  let _ ← attempt do
    literal "."
    takeMany Char.isDigit
  pure ()

/-- The distance of a time from world time. -/
def timeOffset : Scanner Unit :=
  (do let _ ← satisfying fun c => c = 'Z' || c = 'z'; pure ()) <|> do
    let _ ← satisfying fun c => c = '+' || c = '-'
    let _ ← fixedNumber 2 0 23
    literal ":"
    let _ ← fixedNumber 2 0 59
    pure ()

/-- A date, a time of day, or both with or without an offset. -/
def moment : Scanner Value :=
  (do
    date
    let _ ← attempt do
      let _ ← satisfying fun c => c = 'T' || c = 't' || c = ' '
      time
      attempt timeOffset
    pure .moment)
  <|> (do time; pure .moment)

/-- A value written by a number, the longest kind first. -/
def numberOrMoment : Scanner Value := moment <|> decimal <|> specialDecimal <|> integer

/-- The table of lines that stand in one inline table. -/
def inlineTable (lines : List ((List String × String) × Value)) : Option Value := do
  let entries ← lines.foldlM
    (fun (entries : Entries) line => entries.addLine? line.1.1 line.1.2 line.2) []
  pure (.table (entriesToValues entries))

/-- A name, an equals sign and a value. -/
def namedValue (value : Scanner Value) : Scanner ((List String × String) × Value) := do
  let name ← dottedName
  blanks
  literal "="
  blanks
  pure (name, ← value)

/-- A value whose lists and inline tables nest at most to the given depth. -/
def valueWithin (depth : Nat) : Scanner Value := do
  match ← peek? with
  | some '"' | some '\'' => pure (.text (← string))
  | some 't' => do
      literal "true"
      pure (.bool true)
  | some 'f' => do
      literal "false"
      pure (.bool false)
  | some '[' =>
      match depth with
      | 0 => refuse
      | depth + 1 => do
          literal "["
          let first ← attempt do
            filler
            valueWithin depth
          let others ← match first with
            | none => pure []
            | some _ => many do
                filler
                literal ","
                filler
                valueWithin depth
          if first.isSome then
            let _ ← attempt do
              filler
              literal ","
          filler
          literal "]"
          pure (.list (first.toList ++ others))
  | some '{' =>
      match depth with
      | 0 => refuse
      | depth + 1 => do
          literal "\x7b"
          blanks
          let first ← attempt (namedValue (valueWithin depth))
          let others ← match first with
            | none => pure []
            | some _ => many do
                blanks
                literal ","
                blanks
                namedValue (valueWithin depth)
          blanks
          literal "\x7d"
          match inlineTable (first.toList ++ others) with
          | some table => pure table
          | none => refuse
  | _ => numberOrMoment

/-- One line that says something, and what it does to the tables. -/
def line (progress : Progress) : Scanner Progress := do
  let next ←
    if ← sees "[[" then do
      literal "[["
      blanks
      let (path, name) ← dottedName
      blanks
      literal "]]"
      pure (progress.openRepeated? (path ++ [name]))
    else if ← sees "[" then do
      literal "["
      blanks
      let (path, name) ← dottedName
      blanks
      literal "]"
      pure (progress.openTable? (path ++ [name]))
    else do
      let ((path, name), value) ← namedValue (valueWithin deepestNesting)
      pure (progress.addLine? path name value)
  restOfLine
  match next with
  | some progress => pure progress
  | none => refuse

/-- All lines up to the end of the text. -/
def linesWithin (progress : Progress) : (budget : Nat) → Scanner Progress
  | 0 => refuse
  | budget + 1 => do
      blanks
      match ← peek? with
      | none => pure progress
      | some '#' => do
          restOfLine
          linesWithin progress budget
      | some '\n' | some '\r' => do
          lineBreak
          linesWithin progress budget
      | some _ => linesWithin (← line progress) budget

/-- The mark that may stand in front of a text. -/
def byteOrderMark : Char := Char.ofNat 0xFEFF

/-- The entries of the document that a text spells. -/
def read? (text : String) : Option (List (String × Value)) := do
  let characters :=
    match text.toList with
    | first :: rest => if first = byteOrderMark then rest else first :: rest
    | [] => []
  let progress ← (linesWithin {} (characters.length + 1)).run? characters
  pure (entriesToValues (← progress.close?))

end MutationTesting.Document.Toml
