import MutationTesting.Linking.LoadedProgram

/-!
The work that sandboxes are given. A trial runs a test in a program. A probe is work without a
program, to see what a sandbox makes of it; it counts itself, so that its host can tell whether it
ran in the same process.
-/

namespace MutationTesting

/-- A computation that says how a run ended. -/
abbrev Work : Type := Exec ExecutionStatus

/-- A test about to be run in a program whose slots point where they should. -/
structure Trial where
  program : LoadedProgram
  test : UnitTest

def Trial.work (trial : Trial) : Work := trial.test.run trial.program

/-- Calls where no program is loaded: they reach nothing. -/
def callNothing : CallHandler
  | .symbol name, _ => Exec.fault (.unresolvedSymbol name)
  | .address raw, _ => Exec.fault (.invalidAddress raw)

/-- Work that counts itself, evaluates bodies one after the other and answers a status, or a
crash at the first fault.
-/
def probe (bodies : List Body) (status : ExecutionStatus) : Work := do
  Exec.change fun process => { process with counted := process.counted + 1 }
  match ← Exec.catchFault (Body.evalAll callNothing [] bodies) with
  | .ok _ => pure status
  | .error _ => pure .crashed

end MutationTesting
