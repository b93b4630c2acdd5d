import MutationTesting.Sandbox.Containment
import MutationTesting.Sandbox.Kind

/-!
Sandboxes: what runs a test in a program under a deadline. A sandbox folds every outcome into a
result; one that follows a script may also let a panic of the test through.
-/

namespace MutationTesting

/-- A way to run trials that reads and changes a state of its own. -/
structure Sandbox (σ : Type) where
  name : String
  run : Trial → Duration → StateM σ (Except PanicPayload ExecutionResult)

/-- What sandboxes act on. -/
structure Host where
  process : ProcessState := {}
  /-- The timeouts that were given to a scripted sandbox, in order. -/
  timeouts : List Duration := []
deriving Inhabited

namespace Sandbox

/-- Runs share the process of the host. -/
def inProcess : Sandbox Host where
  name := "null"
  run trial timeout := fun host =>
    let (result, process) := runInProcess trial.work timeout host.process
    (.ok result, { host with process })

/-- Every run has a process of its own. -/
def isolated : Sandbox Host where
  name := "fork"
  run trial timeout := fun host => (.ok (runIsolated trial.work timeout host.process), host)

def ofKind : SandboxKind → Sandbox Host
  | .fork => isolated
  | .null => inProcess

end Sandbox

end MutationTesting
