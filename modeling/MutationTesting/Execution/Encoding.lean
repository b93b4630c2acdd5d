import MutationTesting.Document.Decoder
import MutationTesting.Document.Value
import MutationTesting.Execution.UnitTest

/-!
Statuses, durations, results and tests in documents.
-/

namespace MutationTesting

open Document

namespace ExecutionStatus

def decoder : Decoder ExecutionStatus := .variant (all.map name) ofName?

def toValue (status : ExecutionStatus) : Value := .text status.name

end ExecutionStatus

namespace Duration

/-- How the two parts of a duration are read, as seconds and nanoseconds. -/
def fields : Decoder.Fields (Nat × Nat) where
  typeName := "Duration"
  names := ["secs", "nanos"]
  required := ["secs", "nanos"]
  isClosed := true
  start := (0, 0)
  read dialect name value parts :=
    if name = "secs" then
      return (← Decoder.longWord dialect value, parts.2)
    else
      return (parts.1, ← Decoder.word dialect value)

/-- Reads a duration. Nanoseconds from a second on carry into the seconds. -/
def decoder : Decoder Duration := fun dialect value => do
  let parts ← Decoder.record fields dialect value
  match ofParts? parts.1 parts.2 with
  | some duration => .ok duration
  | none => .error (.invalidValue "overflow" "Duration")

/-- A duration from a number of seconds and one of nanoseconds, which is less than a second. -/
def ofValues? (secs nanos : Value) : Option Duration := do
  ofParts? (← secs.size?) (← nanos.natural? nanosPerSecond)

/-- A duration from a list of its two parts. -/
def ofPair? : Value → Option Duration
  | .list [secs, nanos] => ofValues? secs nanos
  | _ => none

def toPair (duration : Duration) : Value :=
  .list [.integer duration.secs, .integer duration.nanos]

def toValue (duration : Duration) : Value :=
  .table [("secs", .integer duration.secs), ("nanos", .integer duration.nanos)]

end Duration

namespace ExecutionResult

def fields : Decoder.Fields ExecutionResult where
  typeName := "ExecutionResult"
  names := ["status", "running_time", "stdout", "stderr"]
  required := ["status", "running_time", "stdout", "stderr"]
  start := {}
  read dialect name value result :=
    match name with
    | "status" => return { result with status := ← ExecutionStatus.decoder dialect value }
    | "running_time" => return { result with runningTime := ← Duration.decoder dialect value }
    | "stdout" => return { result with stdout := ← Decoder.text dialect value }
    | _ => return { result with stderr := ← Decoder.text dialect value }

def decoder : Decoder ExecutionResult := .record fields

def toValue (result : ExecutionResult) : Value :=
  .table
    [
      ("status", result.status.toValue),
      ("running_time", result.runningTime.toValue),
      ("stdout", .text result.stdout),
      ("stderr", .text result.stderr)
    ]

/-- A result without output from a list of its status and the parts of its running time. -/
def ofTriple? : Value → Option ExecutionResult
  | .list [status, secs, nanos] => do
      pure
        {
          status := ← status.choice? ExecutionStatus.ofName?
          runningTime := ← Duration.ofValues? secs nanos
        }
  | _ => none

end ExecutionResult

/-- A test by its name, its entry point, its baseline and the status that it reports without
being called, of which all but the name may be left out.
-/
def UnitTest.ofValue? (value : Value) : Option UnitTest := do
  let fixed ← value.optional "fixed" (Value.choice? ExecutionStatus.ofName?)
  pure
    {
      id := ← value.required "id" Value.text?
      entry := ← value.withDefault "entry" Value.text? ""
      baseline := ← value.withDefault "baseline" ExecutionResult.ofTriple? {}
      action := fixed.elim .callEntry .report
    }

end MutationTesting
