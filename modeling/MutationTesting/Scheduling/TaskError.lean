import MutationTesting.Linking.Image
import MutationTesting.Program.Fault

/-!
What makes a whole run stop. Anything that goes wrong inside a test is no error of this kind:
it is the status of that test.
-/

namespace MutationTesting

/-- Why a run was given up. -/
inductive TaskError where
  | link (error : LinkError)
  | trampoline (error : TrampolineError)
  /-- The code of a mutant is not in the program. -/
  | unresolvedMutant (symbol point : String)
  /-- The sandbox could not run a test at all. -/
  | sandboxFailed (point test stderr : String)
  | workerPanicked (message : String)
  | noWorkers (items : Nat)
deriving DecidableEq, Repr

def TaskError.message : TaskError → String
  | .link error => "failed to link program: " ++ error.message
  | .trampoline error => error.message
  | .unresolvedMutant symbol point =>
      "mutated function `" ++ symbol ++ "` for mutation point `" ++ point
        ++ "` is not in the loaded program"
  | .sandboxFailed point test stderr =>
      "sandbox could not run test `" ++ test ++ "` for mutation point `" ++ point ++ "`: "
        ++ stderr
  | .workerPanicked message => "worker thread panicked: " ++ message
  | .noWorkers items =>
      "no task instances were supplied for " ++ toString items ++ " input items"

def TaskError.kind : TaskError → String
  | .link _ => "Link"
  | .trampoline _ => "Trampoline"
  | .unresolvedMutant _ _ => "UnresolvedMutant"
  | .sandboxFailed _ _ _ => "SandboxFailed"
  | .workerPanicked _ => "WorkerPanicked"
  | .noWorkers _ => "NoWorkers"

/-- Why a task stopped before the end of its shard. -/
inductive TaskStop where
  | failed (error : TaskError)
  | panicked (payload : PanicPayload)
deriving DecidableEq, Repr

def TaskStop.error : TaskStop → TaskError
  | .failed error => error
  | .panicked payload => .workerPanicked payload.message

end MutationTesting
