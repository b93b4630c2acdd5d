import MutationTesting.Document.Value
import MutationTesting.Program.Body
import MutationTesting.Text.Utf8

/-!
Function bodies in documents. A number stands for itself, a few words stand for bodies without
parts, and a table with one of the names below stands for a body with parts.
-/

namespace MutationTesting.Body

open Document

/-- A body that is written as a single word. -/
def ofWord? : String → Option Body
  | "argc" => some .argCount
  | "panic_static" => some (.panic (.text "static panic"))
  | "panic_other" => some (.panic .other)
  | _ => none

def operators : List (String × Operator) :=
  [("add", .add), ("sub", .sub), ("mul", .mul), ("div", .div), ("eq", .eq), ("lt", .lt)]

/-- Milliseconds as a waiting time. -/
def waitMillis (millis : Nat) : Body := .wait (millis * 1000000)

def writeText (stream : OutputStream) (text : String) : Body := .write stream (Utf8.encode text)

/-- An exit code, of which only the lowest byte counts. -/
def exitWith (code : Int) : Body := .exit (.ofNat (code.emod 256).toNat)

/-- A body without parts, from the name and the value that describe it. -/
def ofLeaf? (name : String) (value : Value) : Option Body :=
  match name with
  | "arg" => value.size?.map .arg
  | "abort" => value.text?.map .abort
  | "panic" => value.text?.map fun text => .panic (.text text)
  | "sleep" => value.size?.map waitMillis
  | "print" => value.text?.map (writeText .stdout)
  | "eprint" => value.text?.map (writeText .stderr)
  | "print_bytes" => (value.list? Value.byte?).map (.write .stdout)
  | "eprint_bytes" => (value.list? Value.byte?).map (.write .stderr)
  | "exit" => value.integer?.map exitWith
  | "signal" => (value.choice? Signal.ofName?).map .raise
  | _ => none

def leafNames : List String :=
  ["arg", "abort", "panic", "sleep", "print", "eprint", "print_bytes", "eprint_bytes", "exit",
    "signal"]

/-- A body from a value that is nested at most to the given depth. -/
def ofValueWithin? : (depth : Nat) → Value → Option Body
  | 0, _ => none
  | depth + 1, value =>
      let part := ofValueWithin? depth
      let args : Option (List Body) := value.withDefault "args" (Value.list? part) []
      match value with
      | .integer _ => value.int64?.map .const
      | .text word => ofWord? word
      | .table _ =>
          match operators.find? fun named => (value.field? named.1).isSome with
          | some (name, op) => do
              let (left, right) ← value.required name (Value.pair? part part)
              pure (.wrapping op left right)
          | none =>
              match leafNames.find? fun name => (value.field? name).isSome with
              | some name => (value.field? name).bind (ofLeaf? name)
              | none =>
                  if (value.field? "if").isSome then
                    match value.field? "if" with
                    | some (.list [condition, yes, no]) =>
                        return .select (← part condition) (← part yes) (← part no)
                    | _ => none
                  else if (value.field? "call").isSome then
                    return .call (← value.required "call" Value.text?) (← args)
                  else if (value.field? "call_address").isSome then
                    return .callAddress (← value.required "call_address" Value.size?) (← args)
                  else if (value.field? "seq").isSome then
                    (value.required "seq" (Value.list? part)).map .sequence
                  else do
                    let (body, fallback) ← value.required "try" (Value.pair? part part)
                    pure (.recover body fallback)
      | _ => none

def ofValue? (value : Value) : Option Body := ofValueWithin? value.depth value

end MutationTesting.Body
