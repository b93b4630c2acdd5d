import MutationTesting.Configuration.Configuration
import MutationTesting.Mutation.Result
import MutationTesting.Run.Loading
import MutationTesting.Sandbox.Sandbox
import MutationTesting.Scheduling.Task

/-!
Running the tests that reach mutation points with the mutants in place. The program is linked
once; a mutant is put into place by pointing the slot of its function at it, and the slot points
back before the next point is looked at, however the tests end. The runs can also be planned without
making them: every test of every point is listed with the timeout that it would be given.
-/

namespace MutationTesting

/-- What running mutants needs. -/
structure MutantRuns (σ : Type) where
  source : ProgramSource
  sandbox : Sandbox σ
  timeouts : TimeoutPolicy
  failFast : Bool

/-- A program whose slots change from mutant to mutant, and what the sandbox acts on. -/
structure Bench (σ : Type) where
  program : LoadedProgram
  sandbox : σ

namespace Bench

/-- Lets the sandbox act. -/
def run (action : StateM σ α) : StateM (Bench σ) α := fun bench =>
  let (answer, sandbox) := action bench.sandbox
  (answer, { bench with sandbox })

/-- Changes the slots of the program. -/
def changeSlots (change : TrampolineTable → TrampolineTable) : StateM (Bench σ) Unit :=
  modify fun bench =>
    { bench with program.trampolines := change bench.program.trampolines }

end Bench

namespace MutantRuns

/-- The symbol of the slot that a point needs. -/
def slotName (setup : MutantRuns σ) (point : MutationPoint) : String :=
  setup.source.runner.mangler.mangle point.trampoline

/-- The symbol of the code of a mutant. -/
def mutantSymbol (setup : MutantRuns σ) (point : MutationPoint) : String :=
  setup.source.runner.mangler.mangle point.mutatedFunctionName

/-- The slot of a point and the address of its mutant. -/
def locate (setup : MutantRuns σ) (program : LoadedProgram) (point : MutationPoint)
    : Except TaskError (Slot × Address) :=
  match program.trampolines.find (setup.slotName point) with
  | .error error => .error (.trampoline error)
  | .ok slot =>
      match program.image.address? (setup.mutantSymbol point) with
      | none => .error (.unresolvedMutant (setup.mutantSymbol point) point.uniqueId)
      | some address => .ok (slot, address)

/-- The outcome of one test with the mutant in place. -/
def runTest (setup : MutantRuns σ) (reachable : ReachableTest)
    : StateM (Bench σ) (Except PanicPayload ExecutionResult) := do
  let bench ← get
  Bench.run
    (setup.sandbox.run { program := bench.program, test := reachable.test }
      (setup.timeouts.timeoutFor reachable.test.baseline.runningTime))

/-- Runs the tests of a point one after the other. Once a test has killed the mutant the rest
may be skipped; a test that could not be run at all stops everything.
-/
def runTests (setup : MutantRuns σ) (point : MutationPoint)
    : (isKilled : Bool) → List ReachableTest → StateM (Bench σ) (ItemOutcome MutationResult)
  | _, [] => pure {}
  | isKilled, reachable :: rest => do
      let outcome ←
        if setup.failFast && isKilled then
          pure (.ok .failFast)
        else
          setup.runTest reachable
      match outcome with
      | .error payload => pure { stop := some (.panicked payload) }
      | .ok result =>
          if result.status = .invalid then
            let error := .sandboxFailed point.uniqueId reachable.test.id result.stderr
            pure { stop := some (.failed error) }
          else do
            let others ← setup.runTests point (isKilled || !result.status.isPassed) rest
            let first : MutationResult :=
              { result, point, test := reachable.test, distance := reachable.distance }
            pure { others with outputs := first :: others.outputs }

/-- Puts the mutant of a point into place, runs its tests and takes it out again. -/
def runPoint (setup : MutantRuns σ) (point : MutationPoint)
    : StateM (Bench σ) (ItemOutcome MutationResult) := do
  let bench ← get
  match setup.locate bench.program point with
  | .error error => pure { stop := some (.failed error) }
  | .ok (slot, address) =>
      let (active, activation) := bench.program.trampolines.activate slot address
      Bench.changeSlots fun _ => active
      let outcome ← setup.runTests point false point.reachableTests
      Bench.changeSlots (·.release activation)
      pure outcome

/-- Runs a shard of points. A program that is at hand is used; otherwise it is loaded. The
program is kept for later shards unless a panic ends this one.
-/
def runShard (setup : MutantRuns σ) (program : Option LoadedProgram)
    (points : List MutationPoint)
    : StateM σ (TaskOutcome MutationResult × Option LoadedProgram) := fun sandbox =>
  match program.elim setup.source.load .ok with
  | .error error => (({ stop := some (.failed error) }, none), sandbox)
  | .ok program =>
      let (outcome, bench) := Task.ofItems setup.runPoint points { program, sandbox }
      let kept :=
        match outcome.stop with
        | some (.panicked _) => none
        | _ => some bench.program
      ((outcome, kept), bench.sandbox)

def task (setup : MutantRuns σ) : Task σ MutationPoint MutationResult := fun points => do
  let (outcome, _) ← setup.runShard none points
  pure outcome

end MutantRuns

/-- The run of a test that is only planned. -/
def plannedRun (timeouts : TimeoutPolicy) (point : MutationPoint) (reachable : ReachableTest)
    : MutationResult :=
  {
    result := .dryRun (timeouts.timeoutFor reachable.test.baseline.runningTime)
    point
    test := reachable.test
    distance := reachable.distance
  }

/-- The task of one worker that only plans. -/
def dryRunTask (timeouts : TimeoutPolicy) : Task σ MutationPoint MutationResult :=
  Task.ofItems fun point =>
    pure { outputs := point.reachableTests.map (plannedRun timeouts point) }

end MutationTesting
