import MutationTesting.Document.Decoder
import MutationTesting.Document.Value
import MutationTesting.Mutation.Point

/-!
Mutators, places and mutation points in documents.
-/

namespace MutationTesting

open Document

namespace Mutator

def decoder : Decoder Mutator := .variant (all.map name) ofName?

def toValue (mutator : Mutator) : Value := .text mutator.name

end Mutator

namespace InstructionAddress

def fields : Decoder.Fields InstructionAddress where
  typeName := "InstructionAddress"
  names := ["function_index", "basic_block_index", "instruction_index"]
  required := ["function_index", "basic_block_index", "instruction_index"]
  start := { function := 0, block := 0, instruction := 0 }
  read dialect name value address := do
    let index ← Decoder.size dialect value
    match name with
    | "function_index" => .ok { address with function := index }
    | "basic_block_index" => .ok { address with block := index }
    | _ => .ok { address with instruction := index }

def decoder : Decoder InstructionAddress := .record fields

/-- An address from a list of its indices. -/
def ofTriple? : Value → Option InstructionAddress
  | .list [function, block, instruction] => do
      pure
        {
          function := ← function.size?
          block := ← block.size?
          instruction := ← instruction.size?
        }
  | _ => none

def toValue (address : InstructionAddress) : Value :=
  .table
    [
      ("function_index", .integer address.function),
      ("basic_block_index", .integer address.block),
      ("instruction_index", .integer address.instruction)
    ]

end InstructionAddress

namespace SourceLocation

def fields : Decoder.Fields SourceLocation where
  typeName := "SourceLocation"
  names := ["file", "line", "column"]
  required := ["file", "line", "column"]
  start := { file := "", line := 0, column := 0 }
  read dialect name value location :=
    match name with
    | "file" => return { location with file := ← Decoder.text dialect value }
    | "line" => return { location with line := ← Decoder.word dialect value }
    | _ => return { location with column := ← Decoder.word dialect value }

def decoder : Decoder SourceLocation := .record fields

/-- A location from a list of its file, line and column. -/
def ofTriple? : Value → Option SourceLocation
  | .list [file, line, column] => do
      pure { file := ← file.text?, line := ← line.word?, column := ← column.word? }
  | _ => none

def toValue (location : SourceLocation) : Value :=
  .table
    [
      ("file", .text location.file),
      ("line", .integer location.line),
      ("column", .integer location.column)
    ]

end SourceLocation

/-- A test that reaches a point, from a list of its place among the given tests and of its
distance.
-/
def ReachableTest.ofPair? (tests : List UnitTest) (value : Value) : Option ReachableTest := do
  let (index, distance) ← value.pair? Value.size? Value.word?
  pure { test := ← tests[index]?, distance }

/-- A mutation point that some of the given tests reach. -/
def MutationPoint.ofValue? (tests : List UnitTest) (value : Value) : Option MutationPoint := do
  pure
    {
      module := ← value.required "module" Value.text?
      function := ← value.required "function" Value.text?
      address := ← value.required "address" InstructionAddress.ofTriple?
      mutator := ← value.required "mutator" (Value.choice? Mutator.ofName?)
      instruction := ← value.withDefault "original_value" Value.text? ""
      location := ← value.optional "location" SourceLocation.ofTriple?
      reachableTests :=
        ← value.withDefault "tests" (Value.list? (ReachableTest.ofPair? tests)) []
    }

end MutationTesting
