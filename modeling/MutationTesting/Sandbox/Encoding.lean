import MutationTesting.Execution.Encoding
import MutationTesting.Sandbox.Sandbox

/-!
Sandboxes that follow a script, and how scripts are written in documents.
-/

namespace MutationTesting

open Document

/-- What a scripted sandbox answers to one call. -/
structure ScriptEntry where
  result : ExecutionResult
  /-- Run the work and answer its status in the place of the scripted one. -/
  runsWork : Bool := false
deriving Inhabited

namespace Sandbox

/-- The answer to the call after `calls` earlier ones: past the end of the script its last entry
is repeated, and an empty script answers the default result.
-/
def scriptEntry (script : List ScriptEntry) (calls : Nat) : ScriptEntry :=
  (script[calls]?.or script.getLast?).getD { result := {} }

/-- Answers from a script, one entry after the other, and notes the timeouts it is given. -/
def scripted (script : List ScriptEntry) : Sandbox Host where
  name := "scripted"
  run trial timeout := fun host =>
    let entry := scriptEntry script host.timeouts.length
    let host := { host with timeouts := host.timeouts ++ [timeout] }
    if entry.runsWork then
      match trial.work host.process with
      | (.ok status, process) => (.ok { entry.result with status }, { host with process })
      | (.error (.panic payload), process) => (.error payload, { host with process })
      | (.error _, process) =>
          (.ok { entry.result with status := .crashed }, { host with process })
    else
      (.ok entry.result, host)

end Sandbox

/-- An answer of a scripted sandbox; all but its status may be left out. -/
def ScriptEntry.ofValue? (value : Value) : Option ScriptEntry := do
  let secs ← value.withDefault "secs" some (.integer 0)
  let nanos ← value.withDefault "nanos" some (.integer 0)
  let result : ExecutionResult :=
    {
      status := ← value.required "status" (Value.choice? ExecutionStatus.ofName?)
      runningTime := ← Duration.ofValues? secs nanos
      stdout := ← value.withDefault "stdout" Value.text? ""
      stderr := ← value.withDefault "stderr" Value.text? ""
    }
  pure { result, runsWork := ← value.withDefault "run" Value.bool? false }

end MutationTesting
