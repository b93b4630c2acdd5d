import MutationTesting.Mutation.Result
import MutationTesting.Run.Loading
import MutationTesting.Sandbox.Sandbox
import MutationTesting.Scheduling.Task

/-!
Running tests on the program as it is, to learn which of them pass and how long they take.
-/

namespace MutationTesting

/-- What running tests without mutants needs. -/
structure BaselineRuns (σ : Type) where
  source : ProgramSource
  sandbox : Sandbox σ
  timeout : Duration

namespace BaselineRuns

def runTest (setup : BaselineRuns σ) (program : LoadedProgram) (test : UnitTest)
    : StateM σ (ItemOutcome BaselineRun) := do
  match ← setup.sandbox.run { program, test } setup.timeout with
  | .ok result => pure { outputs := [{ test, result }] }
  | .error payload => pure { stop := some (.panicked payload) }

/-- Runs a shard of tests. A program that is at hand is used; otherwise it is loaded. The program
is kept for later shards unless a panic ends this one.
-/
def runShard (setup : BaselineRuns σ) (program : Option LoadedProgram) (tests : List UnitTest)
    : StateM σ (TaskOutcome BaselineRun × Option LoadedProgram) := do
  match program.elim setup.source.load .ok with
  | .error error => pure ({ stop := some (.failed error) }, none)
  | .ok program =>
      let outcome ← Task.ofItems (setup.runTest program) tests
      pure (outcome, if outcome.stop.isNone then some program else none)

def task (setup : BaselineRuns σ) : Task σ UnitTest BaselineRun := fun tests => do
  let (outcome, _) ← setup.runShard none tests
  pure outcome

end BaselineRuns

end MutationTesting
