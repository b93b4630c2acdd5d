import Mathlib.Data.List.Nodup
import MutationTesting.Proofs.Configuration.Timeouts
import MutationTesting.Proofs.Recording.ClosestTests
import MutationTesting.Proofs.Run.Planning
import MutationTesting.Run.Discovery
import MutationTesting.Sample.Single

/-! What a test did on the unmutated program stays with it through the whole run. It is attached to
the test once the test passed, the functions that the test reaches hand on the test as it is, and
the points of these functions run it within a timeout that follows from its own running time.
-/

namespace MutationTesting

-----------------------------------------------------------------------------------------
-- Tests that reach a function
-----------------------------------------------------------------------------------------

/-- A test that reaches a function is the test of one of the testees, namely of the first one with
its name.
-/
theorem exists_testee_of_reachableTests {function : String} {testees : List Testee}
    {reachable : ReachableTest} (member : reachable ∈ reachableTests function testees)
    : ∃ testee ∈ testees, testee.function = function ∧ testee.test = reachable.test := by
  have closest := closestOf_reachableTests member
  obtain ⟨testee, first, same⟩ := Option.map_eq_some_iff.mp closest.test
  obtain ⟨inside, appears⟩ := List.mem_filter.mp (List.mem_of_head? first)
  obtain ⟨own, -⟩ : testee.function = function ∧ testee.test.id = reachable.test.id := by
    simpa using appears
  exact ⟨testee, inside, own, same⟩

-----------------------------------------------------------------------------------------
-- Tests on the unmutated program
-----------------------------------------------------------------------------------------

/-- The run in which a test passed on the unmutated program: it is the only run of a test with this
name, and the test has its result as a baseline.
-/
structure BaselineRun.IsOf (run : BaselineRun) (runs : List BaselineRun) (test : UnitTest)
    : Prop where
  member : run ∈ runs
  only : ∀ other ∈ runs, other.test.id = test.id → other = run
  passed : run.result.status = .passed
  baselined : test = run.baselinedTest

/-- A test passed in a run and has the result of it as its baseline. -/
theorem mem_passingTests {runs : List BaselineRun} {test : UnitTest}
    : test ∈ passingTests runs
      ↔ ∃ run ∈ runs, run.result.status = .passed ∧ run.baselinedTest = test := by
  simp [passingTests, ExecutionStatus.isPassed, and_assoc]

/-- When no two tests have the same name, a passing test has a single run. -/
theorem exists_isOf_of_passingTests {runs : List BaselineRun} {test : UnitTest}
    (distinct : (runs.map (·.test.id)).Nodup) (passing : test ∈ passingTests runs)
    : ∃ run : BaselineRun, run.IsOf runs test := by
  obtain ⟨run, member, passed, rfl⟩ := mem_passingTests.mp passing
  exact ⟨run, {
    member
    only := fun other inside same => List.inj_on_of_nodup_map distinct inside member same
    passed
    baselined := rfl
  }⟩

/-- A worker that runs its tests to the end leaves one run for each. -/
theorem BaselineRuns.task_blocks (setup : BaselineRuns σ)
    : TaskBlocks (fun _ => True) (fun test runs => runs.map (·.test) = [test]) setup.task := by
  cases loaded : setup.source.load with
  | error error =>
      refine ⟨fun _ _ _ => trivial, fun tests state _ finished => ?_⟩
      rw [task_of_error loaded] at finished
      cases finished
  | ok program =>
      rw [funext (task_of_load loaded)]
      refine .ofItems (fun _ _ _ => trivial) fun test state _ goesOn => ?_
      rw [runTest_apply] at goesOn ⊢
      dsimp only at goesOn ⊢
      cases answered : (setup.sandbox.run { program, test } setup.timeout state).1 with
      | ok result => rfl
      | error payload =>
          rw [answered] at goesOn
          cases goesOn

namespace Engine

/-- A run of tests that succeeds has one run for each test, in their order. -/
theorem tests_of_runBaselines (engine : Engine σ) {tests : List UnitTest}
    {objects : List ObjectFile} {trampolined : List String} {sandbox : σ}
    {runs : List BaselineRun}
    (succeeded : (engine.runBaselines tests objects trampolined sandbox).1 = .ok runs)
    : runs.map (·.test) = tests := by
  have blocks := execute_blocks (engine.baselineRuns objects trampolined).task_blocks tests sandbox
    trivial succeeded
  have inOrder : runs.map (·.test) = tests.flatMap fun test => [test] :=
    blocks.map_eq_flatMap fun _ _ own => own
  rw [inOrder, List.flatMap_singleton']

end Engine

-----------------------------------------------------------------------------------------
-- Tests of points
-----------------------------------------------------------------------------------------

/-- Every point that is looked at leaves a record of calls that were made for its tests. -/
theorem MutantRuns.recordPoint_madeFor (setup : MutantRuns σ)
    : NotesItem (fun _ => True) (·.sandbox.2)
        (fun point record _ =>
          ∀ call ∈ record.calls,
            ∃ reachable ∈ point.reachableTests, ∃ active, setup.MadeFor active reachable call)
        setup.recordPoint := by
  intro point bench _
  obtain ⟨record, noted, run⟩ := setup.recordPoint_run point bench
  exact ⟨trivial, record, noted, run.madeFor⟩

namespace Engine

/-- Whether a run over mutants succeeds or not, every call of the sandbox is made for a test that
reaches one of the points.
-/
theorem recordMutants_madeFor (engine : Engine σ) (points : List MutationPoint)
    (objects : List ObjectFile) (trampolined : List String) (sandbox : σ)
    : let setup := engine.mutantRuns objects trampolined
      ∀ record ∈ (engine.recordMutants points objects trampolined (sandbox, [])).2.2,
        ∀ call ∈ record.calls,
          ∃ point ∈ points,
            ∃ reachable ∈ point.reachableTests, ∃ active, setup.MadeFor active reachable call := by
  intro setup record member call made
  have notes (program : LoadedProgram) (loaded : setup.source.load = .ok program)
      : NotesTask Prod.snd _ setup.recordingTask :=
    MutantRuns.recordingTask_notes_of setup.recordPoint_madeFor (fun _ => trivial) loaded
  rcases engine.recordMutants_records_of points objects trampolined notes sandbox with
    none | ⟨_, -, trace⟩
  · rw [none] at member
    cases member
  · obtain ⟨point, inside, _, calls⟩ := trace.notedFor record member
    exact ⟨point, inside, calls call made⟩

/-- The result of a test is about a test that reaches one of the points. -/
theorem exists_reachable_of_runMutants (engine : Engine σ) {points : List MutationPoint}
    {objects : List ObjectFile} {trampolined : List String} {sandbox : σ}
    {results : List MutationResult}
    (succeeded : (engine.runMutants points objects trampolined sandbox).1 = .ok results)
    {result : MutationResult} (member : result ∈ results)
    : ∃ point ∈ points, ∃ reachable ∈ point.reachableTests, result.test = reachable.test := by
  have listed : result.pair ∈ pairsOf points := by
    rw [← engine.pairs_of_runMutants succeeded]
    exact List.mem_map_of_mem member
  obtain ⟨point, inside, paired⟩ := List.mem_flatMap.mp listed
  obtain ⟨reachable, reaches, same⟩ := List.mem_map.mp paired
  exact ⟨point, inside, reachable, reaches, congrArg (·.2.test) same.symm⟩

/-- Baselines flow through the whole run. When tests with different names have been run on the
unmutated program, testees are found for those that passed, and the points are reached by the tests
that reach their functions, then each result of a run over the points is about a test that passed,
and this test has the result of its one run as its baseline. The sandbox is called for such tests
only, and each of them may run for the multiple of the time that it took then, as far as there is
such a duration, but at least for the least time. The calls are recorded on the way, which changes
nothing.
-/
theorem runMutants_usesBaselines (measuring : Engine τ) (engine : Engine σ)
    {tests : List UnitTest} (distinct : (tests.map (·.id)).Nodup) {original : List ObjectFile}
    {replaceable : List String} {before : τ} {runs : List BaselineRun}
    (measured : (measuring.runBaselines tests original replaceable before).1 = .ok runs)
    {testees : List Testee} (passing : ∀ testee ∈ testees, testee.test ∈ passingTests runs)
    {points : List MutationPoint}
    (attached
      : ∀ point ∈ points, point.reachableTests = reachableTests point.function testees)
    (objects : List ObjectFile) (trampolined : List String) (sandbox : σ)
    : let recorded := engine.recordMutants points objects trampolined (sandbox, [])
      let timeouts := engine.configuration.run.timeouts
      runs.map (·.test) = tests
      ∧ engine.runMutants points objects trampolined sandbox = (recorded.1, recorded.2.1)
      ∧ (∀ results,
          recorded.1 = .ok results
          → ∀ result ∈ results, ∃ run : BaselineRun, run.IsOf runs result.test)
      ∧ ∀ record ∈ recorded.2.2,
          ∀ call ∈ record.calls,
            ∃ run : BaselineRun,
              run.IsOf runs call.trial.test
              ∧ call.timeout.toNanos
                = max
                    (min (timeouts.multiplier * run.result.runningTime.toNanos)
                      Duration.longest.toNanos)
                    timeouts.floor.toNanos := by
  intro recorded timeouts
  have same : engine.runMutants points objects trampolined sandbox = (recorded.1, recorded.2.1) :=
    engine.runMutants_recorded points objects trampolined (sandbox, [])
  have all : runs.map (·.test) = tests := measuring.tests_of_runBaselines measured
  have names : (runs.map (·.test.id)).Nodup := by
    rw [← all, List.map_map] at distinct
    exact distinct
  -- However many copies of a test were found, the one that is attached passed.
  have origin (point : MutationPoint) (inside : point ∈ points) (reachable : ReachableTest)
      (reaches : reachable ∈ point.reachableTests)
      : ∃ run : BaselineRun, run.IsOf runs reachable.test := by
    rw [attached point inside] at reaches
    obtain ⟨testee, found, -, own⟩ := exists_testee_of_reachableTests reaches
    exact own ▸ exists_isOf_of_passingTests names (passing testee found)
  refine ⟨all, same, fun results succeeded result member => ?_, fun record member call made => ?_⟩
  · have succeededToo : (engine.runMutants points objects trampolined sandbox).1 = .ok results := by
      rw [same]
      exact succeeded
    obtain ⟨point, inside, reachable, reaches, own⟩ :=
      engine.exists_reachable_of_runMutants succeededToo member
    exact own ▸ origin point inside reachable reaches
  · obtain ⟨point, inside, reachable, reaches, _, called⟩ :=
      engine.recordMutants_madeFor points objects trampolined sandbox record member call made
    obtain ⟨run, isOf⟩ := origin point inside reachable reaches
    have baseline : reachable.test.baseline = run.result := by rw [isOf.baselined]; rfl
    refine ⟨run, called.test ▸ isOf, ?_⟩
    rw [called.timeout, baseline, TimeoutPolicy.toNanos_timeoutFor]
    rfl

section

open Sample.Single

/-- The sample where one of two tests passes. Two copies of this test are found, and its one call
may take ten times the seven milliseconds that it took without a mutant.
-/
theorem single_runMutants_usesBaselines
    : let engine := engineByName.withSandbox slowSandboxByName
      let tests : List UnitTest :=
        [{ id := "first", entry := "check" }, { id := "second", entry := "check" }]
      let result (status : ExecutionStatus) : ExecutionResult :=
        { status, runningTime := .ofMillis 7 }
      let passed : BaselineRun := ⟨{ id := "second", entry := "check" }, result .passed⟩
      let runs : List BaselineRun :=
        [⟨{ id := "first", entry := "check" }, result .failed⟩, passed]
      let testees : List Testee :=
        [⟨"one", passed.baselinedTest, 2⟩, ⟨"one", passed.baselinedTest, 1⟩]
      let points := attachTests [point] testees
      let recorded := engine.recordMutants points objects ["one"] ((), [])
      (engine.runBaselines tests objects ["one"] ()).1 = .ok runs
      ∧ (∃ results,
          recorded.1 = .ok results
          ∧ results.map (·.test) = [passed.baselinedTest]
          ∧ ∀ result ∈ results, ∃ run : BaselineRun, run.IsOf runs result.test)
      ∧ (recorded.2.2.flatMap (·.calls)).map (·.timeout) = [.ofMillis 70]
      ∧ ∀ record ∈ recorded.2.2,
          ∀ call ∈ record.calls,
            ∃ run : BaselineRun,
              run.IsOf runs call.trial.test
              ∧ call.timeout.toNanos
                = max (min (10 * run.result.runningTime.toNanos) Duration.longest.toNanos)
                    (Duration.ofMillis 30).toNanos := by
  intro engine tests result passed runs testees points recorded
  have distinct : (tests.map (·.id)).Nodup := by decide
  have measured : (engine.runBaselines tests objects ["one"] ()).1 = .ok runs := by decide
  have passing : ∀ testee ∈ testees, testee.test ∈ passingTests runs := by decide
  have attached
      : ∀ point ∈ points, point.reachableTests = reachableTests point.function testees := by
    decide
  obtain ⟨-, -, about, calls⟩ :=
    runMutants_usesBaselines engine engine distinct measured passing attached objects ["one"] ()
  have listed : recorded.1.map (List.map (·.test)) = .ok [passed.baselinedTest] := by decide
  obtain ⟨results, succeeded, shown⟩ := eq_ok_of_map listed
  exact ⟨measured, ⟨results, succeeded, shown, about results succeeded⟩, by decide, calls⟩

end

end Engine

end MutationTesting
