import MutationTesting.Mutation.Mutator
import MutationTesting.Naming.Mangler
import MutationTesting.Recording.Testee

/-!
Mutation points: where a change can be made, what it is called, and which tests reach it.
-/

namespace MutationTesting

/-- The position of an instruction in its module. -/
structure InstructionAddress where
  function : Nat
  block : Nat
  instruction : Nat
deriving DecidableEq, Repr, Inhabited

namespace InstructionAddress

/-- The three indices joined by underscores. -/
def identifier (address : InstructionAddress) : String :=
  toString address.function ++ "_" ++ toString address.block ++ "_"
    ++ toString address.instruction

/-- The order of addresses: functions first, then blocks, then instructions. -/
def ble (left right : InstructionAddress) : Bool :=
  if left.function ≠ right.function then left.function < right.function
  else if left.block ≠ right.block then left.block < right.block
  else left.instruction ≤ right.instruction

end InstructionAddress

/-- A place in a source text. -/
structure SourceLocation where
  file : String
  line : Nat
  column : Nat
deriving DecidableEq, Repr, Inhabited

/-- File, line and column with colons between them. -/
def SourceLocation.text (location : SourceLocation) : String :=
  location.file ++ ":" ++ toString location.line ++ ":" ++ toString location.column

/-- One possible change of a program. -/
structure MutationPoint where
  module : String
  function : String
  address : InstructionAddress
  mutator : Mutator
  /-- The instruction as it is without the change. -/
  instruction : String := ""
  location : Option SourceLocation := none
  reachableTests : List ReachableTest := []
deriving DecidableEq, Inhabited

namespace MutationPoint

/-- The identity of a point in reports: its mutator, module and address. -/
def uniqueId (point : MutationPoint) : String :=
  point.mutator.id ++ ":" ++ point.module ++ ":" ++ point.address.identifier

/-- A text with its length in bytes in front. -/
def lengthTagged (text : String) : String := toString text.utf8ByteSize ++ text

/-- The name of the function with the change applied. -/
def mutatedFunctionName (point : MutationPoint) : String :=
  "_tamper_" ++ lengthTagged point.function ++ "_" ++ lengthTagged point.module ++ "_"
    ++ point.mutator.id ++ "_" ++ point.address.identifier

/-- The name of the slot through which callers reach the function. -/
def trampoline (point : MutationPoint) : String := trampolineName point.function

/-- The same point, reached by more tests. -/
def withReachableTests (point : MutationPoint) (tests : List ReachableTest) : MutationPoint :=
  { point with reachableTests := point.reachableTests ++ tests }

end MutationPoint

/-- The functions that points change, each once, in order of first appearance. -/
def mutatedFunctionNames (points : List MutationPoint) : List String :=
  (points.map (·.function)).eraseDups

end MutationTesting
