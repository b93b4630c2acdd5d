import MutationTesting.Decimal.Shortest
import MutationTesting.Document.Value
import MutationTesting.Text.Quoted

/-!
Reading typed data from documents. Records are written as tables of named fields or as lists of
their fields in order; choices are written by their names. What a document gets wrong is
reported for the first entry at fault.
-/

namespace MutationTesting.Document

/-- Why a document does not describe the data that was asked for. -/
inductive DecodeError where
  | unknownField (name : String) (expected : List String)
  | unknownVariant (name : String) (expected : List String)
  | invalidType (found expected : String)
  | invalidValue (found expected : String)
  | missingField (name : String)
  | duplicateField (name : String)
  | surplusItems
  /-- A choice that is not written by its name. -/
  | unnamedVariant
  /-- A part that cannot be read at all. -/
  | unreadable
deriving DecidableEq, Repr

/-- Names in a sentence: one of them, one or the other, or one of a list. -/
def expectedNames (names : List String) : String :=
  match names.map fun name => "`" ++ name ++ "`" with
  | [only] => only
  | [first, second] => first ++ " or " ++ second
  | quoted => "one of " ++ ", ".intercalate quoted

/-- The text of an error, as far as there is a fixed wording for it. -/
def DecodeError.message? : DecodeError → Option String
  | .unknownField name expected =>
      some ("unknown field `" ++ name ++ "`, expected " ++ expectedNames expected)
  | .unknownVariant name expected =>
      some ("unknown variant `" ++ name ++ "`, expected " ++ expectedNames expected)
  | .invalidType found expected =>
      some ("invalid type: " ++ found ++ ", expected " ++ expected)
  | .invalidValue found expected =>
      some ("invalid value: " ++ found ++ ", expected " ++ expected)
  | _ => none

/-- What kind of value this is, in messages. -/
def Value.kind : Value → String
  | .null => "unit value"
  | .bool value => "boolean `" ++ toString value ++ "`"
  | .integer value => "integer `" ++ toString value ++ "`"
  | .decimal value => "floating point `" ++ Decimal.render value ++ "`"
  | .text value => "string " ++ Text.quote value
  | .list _ => "sequence"
  | .table _ => "map"
  | .moment => "map"
  | .unreadable => "text"

/-- What depends on the format of a document. -/
structure Dialect where
  /-- Lists of fields may go on after the last field. -/
  ignoresSurplusItems : Bool
  /-- What may be attached to the name of a choice that carries no data. -/
  isEmptyPayload : Value → Bool

namespace Dialect

def json : Dialect where
  ignoresSurplusItems := false
  isEmptyPayload
    | .null => true
    | _ => false

def toml : Dialect where
  ignoresSurplusItems := true
  isEmptyPayload
    | .list items => items.isEmpty
    | .table entries => entries.isEmpty
    | _ => false

end Dialect

/-- Reads data of one type. -/
abbrev Decoder (α : Type) : Type := Dialect → Value → Except DecodeError α

namespace Decoder

/-- Refuses a value of the wrong kind. -/
def wrongType (value : Value) (expected : String) : Except DecodeError α :=
  match value with
  | .unreadable => .error .unreadable
  | value => .error (.invalidType value.kind expected)

def bool : Decoder Bool := fun _ value =>
  match value with
  | .bool value => .ok value
  | value => wrongType value "a boolean"

def text : Decoder String := fun _ value =>
  match value with
  | .text value => .ok value
  | value => wrongType value "a string"

/-- A natural number below a limit, as a type of the given name. -/
def natural (limit : Nat) (typeName : String) : Decoder Nat := fun _ value =>
  match value with
  | .integer number =>
      if 0 ≤ number ∧ number < limit then
        .ok number.toNat
      else
        .error (.invalidValue (Value.kind (.integer number)) typeName)
  | value => wrongType value typeName

def size : Decoder Nat := natural UInt64.size "usize"

def word : Decoder Nat := natural UInt32.size "u32"

def longWord : Decoder Nat := natural UInt64.size "u64"

/-- One of several choices, written by its name alone or as a table with nothing under it. -/
def variant (names : List String) (ofName? : String → Option α) : Decoder α :=
  fun dialect value =>
    let named (name : String) : Except DecodeError α :=
      match ofName? name with
      | some choice => .ok choice
      | none => .error (.unknownVariant name names)
    match value with
    | .text name => named name
    | .table [(name, payload)] => do
        let choice ← named name
        if dialect.isEmptyPayload payload then .ok choice else .error .unnamedVariant
    | _ => .error .unnamedVariant

/-- How the fields of a record are read. -/
structure Fields (α : Type) where
  typeName : String
  names : List String
  /-- The fields that must be there. -/
  required : List String := []
  /-- Other fields are errors. -/
  isClosed : Bool := false
  /-- The record before any field has been read. -/
  start : α
  /-- Reads one of the named fields into a record. -/
  read : Dialect → String → Value → α → Except DecodeError α

namespace Fields

/-- Reads the entries of a table one after the other. -/
def readEntries (fields : Fields α) (dialect : Dialect)
    : (seen : List String) → List (String × Value) → α → Except DecodeError α
  | _, [], record => .ok record
  | seen, (name, value) :: rest, record =>
      if fields.names.contains name then
        if seen.contains name then
          .error (.duplicateField name)
        else do
          let record ← fields.read dialect name value record
          readEntries fields dialect (name :: seen) rest record
      else if fields.isClosed then
        .error (.unknownField name fields.names)
      else
        readEntries fields dialect seen rest record

/-- The first field that must be there and is not. -/
def missing? (fields : Fields α) (entries : List (String × Value)) : Option String :=
  fields.required.find? fun name => !(entries.map (·.1)).contains name

def ofEntries (fields : Fields α) (dialect : Dialect) (entries : List (String × Value))
    : Except DecodeError α := do
  let record ← fields.readEntries dialect [] entries fields.start
  match fields.missing? entries with
  | some name => .error (.missingField name)
  | none => .ok record

end Fields

/-- The only field of a date or time where a record is expected. -/
def momentField : String := "$__toml_private_datetime"

/-- A record, written as a table of its fields or as a list of them. -/
def record (fields : Fields α) : Decoder α := fun dialect value =>
  match value with
  | .table entries => fields.ofEntries dialect entries
  | .list items => do
      let record ← fields.ofEntries dialect (fields.names.zip items)
      if items.length > fields.names.length ∧ !dialect.ignoresSurplusItems then
        .error .surplusItems
      else
        .ok record
  | .moment => fields.ofEntries dialect [(momentField, .moment)]
  | value => wrongType value ("struct " ++ fields.typeName)

end Decoder

end MutationTesting.Document
