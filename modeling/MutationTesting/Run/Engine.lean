import MutationTesting.Configuration.Configuration
import MutationTesting.Run.Baselines
import MutationTesting.Run.Mutants
import MutationTesting.Scheduling.Executor

/-!
Engines: the settings of a run together with where and how its tests run.
-/

namespace MutationTesting

/-- Runs tests with given settings. -/
structure Engine (σ : Type) where
  configuration : Configuration
  runner : Runner
  sandbox : Sandbox σ

namespace Engine

/-- The engine of the given settings, in which zeros among the worker counts are replaced. -/
def ofConfiguration (configuration : Configuration) (cores : Nat) (runner : Runner)
    : Engine Host :=
  {
    configuration := configuration.normalize cores
    runner
    sandbox := .ofKind configuration.run.sandbox
  }

def withSandbox (engine : Engine σ) (sandbox : Sandbox τ) : Engine τ :=
  { configuration := engine.configuration, runner := engine.runner, sandbox }

def baselineRuns (engine : Engine σ) (objects : List ObjectFile) (trampolined : List String)
    : BaselineRuns σ :=
  {
    source := { runner := engine.runner, objects, trampolined }
    sandbox := engine.sandbox
    timeout := .ofMillis engine.configuration.run.testTimeout
  }

def mutantRuns (engine : Engine σ) (objects : List ObjectFile) (trampolined : List String)
    : MutantRuns σ :=
  {
    source := { runner := engine.runner, objects, trampolined }
    sandbox := engine.sandbox
    timeouts := engine.configuration.run.timeouts
    failFast := engine.configuration.run.failFast
  }

/-- Runs every test on the unmutated program, with the given functions behind trampolines. -/
def runBaselines (engine : Engine σ) (tests : List UnitTest) (objects : List ObjectFile)
    (trampolined : List String)
    : StateM σ (Except TaskError (List BaselineRun)) := do
  let task := (engine.baselineRuns objects trampolined).task
  let workers := engine.configuration.counts.testExecution
  return (← execute (List.replicate workers task) tests).outputs

/-- The task of a worker that runs mutants, or plans their runs. -/
def mutantTask (engine : Engine σ) (objects : List ObjectFile) (trampolined : List String)
    : Task σ MutationPoint MutationResult :=
  if engine.configuration.run.dryRun then
    dryRunTask engine.configuration.run.timeouts
  else
    (engine.mutantRuns objects trampolined).task

/-- Runs, or plans to run, every test that reaches one of the points with its mutant in place.
-/
def runMutants (engine : Engine σ) (points : List MutationPoint) (objects : List ObjectFile)
    (trampolined : List String)
    : StateM σ (Except TaskError (List MutationResult)) := do
  let task := engine.mutantTask objects trampolined
  let workers := engine.configuration.counts.mutantExecution
  return (← execute (List.replicate workers task) points).outputs

end Engine

end MutationTesting
