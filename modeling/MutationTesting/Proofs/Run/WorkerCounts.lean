import MutationTesting.Proofs.Run.Repetition
import MutationTesting.Run.Engine
import MutationTesting.Sample.Program

/-! The number of workers decides nothing about the answers of a run. Every worker starts from
the same loaded program and puts each slot back after each point, so that it treats a point as
a single worker would have treated it after all the points in front of it.
-/

namespace MutationTesting

def MutationResult.untimed (result : MutationResult) : MutationResult :=
  { result with result := result.result.untimed }

def BaselineRun.untimed (run : BaselineRun) : BaselineRun :=
  { run with result := run.result.untimed }

/-- The same engine with other numbers of workers. -/
def Engine.withCounts (engine : Engine σ) (counts : WorkerCounts) : Engine σ :=
  { engine with configuration.counts := counts }

-----------------------------------------------------------------------------------------
-- Points
-----------------------------------------------------------------------------------------

namespace MutantRuns

variable {setup : MutantRuns σ} {states : σ → Prop}

/-- How a worker that starts in the given state of the sandbox answers one point. -/
def pointAnswer (setup : MutantRuns σ) (host : σ) (point : MutationPoint)
    : Except TaskError (List MutationResult) :=
  match setup.source.load with
  | .error error => .error error
  | .ok program =>
      seen MutationResult.untimed
        (setup.runPoint point { program, sandbox := host }).1.answer

/-- A worker answers its points as if each of them were its only one. -/
theorem task_follows (steady : setup.sandbox.Steady states) {host : σ} (known : states host)
    : FollowsTask states MutationResult.untimed setup.task (setup.pointAnswer host) := by
  cases loaded : setup.source.load with
  | error error =>
      have fails : setup.pointAnswer host = fun _ => .error error := by
        funext point
        simp only [pointAnswer, loaded]
      refine ⟨fun points state some _ => ?_, fun points state _ valid => ?_⟩
      · rw [task_of_error loaded, fails, sequentially_error error some]
        rfl
      · rw [task_of_error loaded]
        exact valid
  | ok program =>
      have answers : setup.pointAnswer host = fun point =>
          seen MutationResult.untimed
            (setup.runPoint point { program, sandbox := host }).1.answer := by
        funext point
        simp only [pointAnswer, loaded]
      have follows : FollowsItem _ MutationResult.untimed setup.runPoint _ :=
        runPoint_follows steady.repeats (ProgramSource.load_ready loaded).distinct known
      refine ⟨fun points state some valid => ?_, fun points state _ valid => ?_⟩
      · rw [task_of_load loaded, answers]
        exact (follows.ofItems points _ ⟨rfl, valid⟩).1
      · rw [task_of_load loaded]
        exact (follows.ofItems points _ ⟨rfl, valid⟩).2.2

end MutantRuns

/-- Planning the runs of a point takes nothing from the state it is planned in. -/
theorem dryRunTask_follows (timeouts : TimeoutPolicy) (states : σ → Prop)
    : FollowsTask states MutationResult.untimed (dryRunTask timeouts)
        (fun point =>
          .ok
            ((point.reachableTests.map (plannedRun timeouts point)).map
              MutationResult.untimed)) :=
  FollowsItem.task ⟨fun _ _ _ => rfl, fun _ _ valid => valid⟩

-----------------------------------------------------------------------------------------
-- Tests
-----------------------------------------------------------------------------------------

namespace BaselineRuns

variable {setup : BaselineRuns σ} {states : σ → Prop}

/-- What a test contributes, by what the sandbox answers. -/
def contribution (test : UnitTest) : Except PanicPayload ExecutionResult → ItemOutcome BaselineRun
  | .ok result => { outputs := [{ test, result }] }
  | .error payload => { stop := some (.panicked payload) }

theorem runTest_apply (setup : BaselineRuns σ) (program : LoadedProgram) (test : UnitTest)
    (state : σ)
    : setup.runTest program test state
      = let call := setup.sandbox.run { program, test } setup.timeout state
        (contribution test call.1, call.2) := by
  simp only [runTest, bind, StateT.bind]
  rcases setup.sandbox.run { program, test } setup.timeout state with ⟨answer, after⟩
  cases answer <;> rfl

/-- Without a program no test is run. -/
theorem task_of_error {error : TaskError} (failed : setup.source.load = .error error)
    (tests : List UnitTest) (state : σ)
    : setup.task tests state = ({ stop := some (.failed error) }, state) := by
  simp only [task, runShard, bind, StateT.bind, Option.elim, failed]
  rfl

/-- Once the program is loaded its tests are run one after the other. -/
theorem task_of_load {program : LoadedProgram} (loaded : setup.source.load = .ok program)
    (tests : List UnitTest)
    : setup.task tests = Task.ofItems (setup.runTest program) tests := by
  funext state
  simp only [task, runShard, bind, StateT.bind, Option.elim, loaded]
  rfl

/-- Tests are treated alike in all states of a steady sandbox. -/
theorem runTest_follows (steady : setup.sandbox.Steady states) (program : LoadedProgram)
    {host : σ} (known : states host)
    : FollowsItem states BaselineRun.untimed (setup.runTest program)
        (fun test =>
          seen BaselineRun.untimed (setup.runTest program test host).1.answer) := by
  refine ⟨fun test state valid => ?_, fun test state valid => ?_⟩
  · have same := steady.agrees { program, test } setup.timeout state host valid known
    rw [runTest_apply, runTest_apply]
    dsimp only
    rcases untimedAnswer_inj same with ⟨payload, left, right⟩ | ⟨result, other, left, right, agree⟩
    · rw [left, right]
    · rw [left, right]
      simp [contribution, ItemOutcome.answer, BaselineRun.untimed, agree]
  · rw [runTest_apply]
    exact steady.stays _ _ _ valid

/-- How a worker that starts in the given state of the sandbox answers one test. -/
def testAnswer (setup : BaselineRuns σ) (host : σ) (test : UnitTest)
    : Except TaskError (List BaselineRun) :=
  match setup.source.load with
  | .error error => .error error
  | .ok program => seen BaselineRun.untimed (setup.runTest program test host).1.answer

/-- A worker answers its tests as if each of them were its only one. -/
theorem task_follows (steady : setup.sandbox.Steady states) {host : σ} (known : states host)
    : FollowsTask states BaselineRun.untimed setup.task (setup.testAnswer host) := by
  cases loaded : setup.source.load with
  | error error =>
      have fails : setup.testAnswer host = fun _ => .error error := by
        funext test
        simp only [testAnswer, loaded]
      refine ⟨fun tests state some _ => ?_, fun tests state _ valid => ?_⟩
      · rw [task_of_error loaded, fails, sequentially_error error some]
        rfl
      · rw [task_of_error loaded]
        exact valid
  | ok program =>
      have answers : setup.testAnswer host = fun test =>
          seen BaselineRun.untimed (setup.runTest program test host).1.answer := by
        funext test
        simp only [testAnswer, loaded]
      have follows := runTest_follows steady program known
      refine ⟨fun tests state some valid => ?_, fun tests state _ valid => ?_⟩
      · rw [task_of_load loaded, answers]
        exact (follows.ofItems tests state valid).1
      · rw [task_of_load loaded]
        exact (follows.ofItems tests state valid).2

end BaselineRuns

-----------------------------------------------------------------------------------------
-- Engines
-----------------------------------------------------------------------------------------

namespace Engine

variable {engine : Engine σ} {states : σ → Prop}

/-- How an engine answers one point when it starts in the given state of its sandbox. -/
def pointAnswer (engine : Engine σ) (objects : List ObjectFile) (trampolined : List String)
    (host : σ) (point : MutationPoint)
    : Except TaskError (List MutationResult) :=
  if engine.configuration.run.dryRun then
    .ok
      ((point.reachableTests.map (plannedRun engine.configuration.run.timeouts point)).map
        MutationResult.untimed)
  else
    (engine.mutantRuns objects trampolined).pointAnswer host point

/-- A run over mutants is one pass over the points, in which the workers do not occur. -/
theorem runMutants_sequentially (steady : engine.sandbox.Steady states)
    (pos : 0 < engine.configuration.counts.mutantExecution) (points : List MutationPoint)
    (objects : List ObjectFile) (trampolined : List String) {host state : σ}
    (known : states host) (start : states state)
    : seen MutationResult.untimed (engine.runMutants points objects trampolined state).1
      = sequentially (engine.pointAnswer objects trampolined host) points := by
  have follows
      : FollowsTask states MutationResult.untimed (engine.mutantTask objects trampolined)
          (engine.pointAnswer objects trampolined host) := by
    unfold mutantTask
    cases planned : engine.configuration.run.dryRun with
    | true =>
        have answers : engine.pointAnswer objects trampolined host = _ :=
          funext fun point => if_pos planned
        rw [answers]
        exact dryRunTask_follows engine.configuration.run.timeouts states
    | false =>
        have answers : engine.pointAnswer objects trampolined host = _ :=
          funext fun point => if_neg (by simp [planned])
        rw [answers]
        exact MutantRuns.task_follows steady known
  exact execute_replicate follows pos points state start

/-- A run of tests is one pass over them, in which the workers do not occur. -/
theorem runBaselines_sequentially (steady : engine.sandbox.Steady states)
    (pos : 0 < engine.configuration.counts.testExecution) (tests : List UnitTest)
    (objects : List ObjectFile) (trampolined : List String) {host state : σ}
    (known : states host) (start : states state)
    : seen BaselineRun.untimed (engine.runBaselines tests objects trampolined state).1
      = sequentially ((engine.baselineRuns objects trampolined).testAnswer host) tests :=
  execute_replicate (BaselineRuns.task_follows steady known) pos tests state start

/-- Two runs of an engine with different numbers of workers answer the same: the same results
in the same order, running times apart, or the same error. Neither run need start in the state
of the sandbox in which the other one starts.
-/
theorem runs_eq_of_withCounts (engine : Engine σ) (states : σ → Prop)
    (steady : engine.sandbox.Steady states) (few many : WorkerCounts) (first second : σ)
    (knownFirst : states first) (knownSecond : states second)
    : (0 < few.mutantExecution
        → 0 < many.mutantExecution
        → ∀ points objects trampolined,
          seen MutationResult.untimed
              ((engine.withCounts few).runMutants points objects trampolined first).1
            = seen MutationResult.untimed
                ((engine.withCounts many).runMutants points objects trampolined second).1)
      ∧ (0 < few.testExecution
          → 0 < many.testExecution
          → ∀ tests objects trampolined,
            seen BaselineRun.untimed
                ((engine.withCounts few).runBaselines tests objects trampolined first).1
              = seen BaselineRun.untimed
                  ((engine.withCounts many).runBaselines tests objects trampolined second).1)
      := by
  have steadyFew : (engine.withCounts few).sandbox.Steady states := steady
  have steadyMany : (engine.withCounts many).sandbox.Steady states := steady
  refine ⟨fun somebody others points objects trampolined => ?_,
    fun somebody others tests objects trampolined => ?_⟩
  · rw [runMutants_sequentially steadyFew somebody _ _ _ knownFirst knownFirst,
      runMutants_sequentially steadyMany others _ _ _ knownFirst knownSecond]
    rfl
  · rw [runBaselines_sequentially steadyFew somebody _ _ _ knownFirst knownFirst,
      runBaselines_sequentially steadyMany others _ _ _ knownFirst knownSecond]
    rfl

/-- A single worker and three workers answer the same for the sample program, also when the
second run takes place later in a process that has written something meanwhile.
-/
theorem sample_runs_eq_of_withCounts
    : let engine := Engine.ofConfiguration (.standard 4) 4 Sample.runner
      let alone : WorkerCounts := .uniform 1 4
      let together : WorkerCounts := .uniform 3 4
      let later : Host := { process := { stdout := { written := [104, 105] }, elapsed := 500 } }
      (engine.sandbox.Steady fun host => host.process.deadline = none)
      ∧ seen MutationResult.untimed
            ((engine.withCounts alone).runMutants Sample.reachedPoints Sample.objects
              Sample.trampolined {}).1
          = seen MutationResult.untimed
              ((engine.withCounts together).runMutants Sample.reachedPoints Sample.objects
                Sample.trampolined later).1
      ∧ seen BaselineRun.untimed
            ((engine.withCounts alone).runBaselines Sample.unitTests Sample.objects
              Sample.trampolined {}).1
          = seen BaselineRun.untimed
              ((engine.withCounts together).runBaselines Sample.unitTests Sample.objects
                Sample.trampolined later).1 := by
  intro engine alone together later
  have steady : engine.sandbox.Steady fun host => host.process.deadline = none :=
    Sandbox.ofKind_steady .fork
  obtain ⟨mutants, baselines⟩ :=
    runs_eq_of_withCounts engine _ steady alone together {} later rfl rfl
  exact ⟨steady, mutants (by decide) (by decide) _ _ _, baselines (by decide) (by decide) _ _ _⟩

end Engine

end MutationTesting
