import MutationTesting.Proofs.Run.Planning
import MutationTesting.Proofs.Sandbox.Steadiness

/-! Skipping the tests of a mutant after the first one that kills it hides the results of these
tests and changes nothing else. As long as a sandbox repeats its answers, a run that skips tests
comes to the results of a full run up to the first test of a point that does not pass, and it calls
the sandbox for just these.
-/

namespace MutationTesting

-----------------------------------------------------------------------------------------
-- Results that are hidden
-----------------------------------------------------------------------------------------

/-- The result as it is listed when its test is skipped. -/
def MutationResult.skipped (result : MutationResult) : MutationResult :=
  { result with result := .failFast }

/-- The results up to the first one of a test that did not pass, which is the last one of them. -/
def untilKill : List MutationResult → List MutationResult
  | [] => []
  | first :: rest =>
      if first.result.status.isPassed then
        first :: untilKill rest
      else
        [first]

/-- The same results where the tests after the first one that did not pass are skipped. -/
def masked (results : List MutationResult) : List MutationResult :=
  untilKill results ++ (results.drop (untilKill results).length).map MutationResult.skipped

section

variable {first : MutationResult}

theorem untilKill_passed (passes : first.result.status.isPassed = true)
    (rest : List MutationResult)
    : untilKill (first :: rest) = first :: untilKill rest :=
  if_pos passes

theorem untilKill_killed (kills : first.result.status.isPassed = false)
    (rest : List MutationResult)
    : untilKill (first :: rest) = [first] :=
  if_neg (by simp [kills])

theorem masked_passed (passes : first.result.status.isPassed = true) (rest : List MutationResult)
    : masked (first :: rest) = first :: masked rest := by
  simp only [masked, untilKill_passed passes, List.cons_append, List.length_cons,
    List.drop_succ_cons]

theorem masked_killed (kills : first.result.status.isPassed = false) (rest : List MutationResult)
    : masked (first :: rest) = first :: rest.map MutationResult.skipped := by
  simp only [masked, untilKill_killed kills, List.length_singleton, List.drop_one, List.tail_cons,
    List.singleton_append]

end

/-- The results come from the calls, one from each in their order. -/
def CalledFor (calls : List SandboxCall) (results : List MutationResult) : Prop :=
  List.Forall₂
    (fun call result => call.trial.test = result.test ∧ call.answer = .ok result.result) calls
    results

-----------------------------------------------------------------------------------------
-- The tests of a point
-----------------------------------------------------------------------------------------

namespace MutantRuns

/-- The same runs, told whether to skip tests after a kill. -/
def withFailFast (setup : MutantRuns σ) (failFast : Bool) : MutantRuns σ := { setup with failFast }

variable {setup : MutantRuns σ} {point : MutationPoint} {program : LoadedProgram}
  {isKilled : Bool} {tests : List ReachableTest} {calls : List SandboxCall}
  {outcome : ItemOutcome MutationResult} {results : List MutationResult}

/-- A sandbox that repeats its answers leaves no choice about the call for a test. -/
theorem MadeFor.unique (repeats : setup.sandbox.Repeats (fun _ => True) id) {failFast other : Bool}
    {reachable : ReachableTest} {first second : SandboxCall}
    (made : (setup.withFailFast failFast).MadeFor program reachable first)
    (madeToo : (setup.withFailFast other).MadeFor program reachable second)
    : first = second := by
  rcases first with ⟨⟨_, _⟩, _, answer⟩
  rcases second with ⟨⟨_, _⟩, _, answer'⟩
  obtain ⟨⟨rfl, state, answered⟩, rfl, rfl⟩ := made
  obtain ⟨⟨rfl, later, answeredToo⟩, rfl, rfl⟩ := madeToo
  have same (trial : Trial) (timeout : Duration)
      : (setup.sandbox.run trial timeout state).1 = (setup.sandbox.run trial timeout later).1 := by
    simpa only [Except.map_id, id] using repeats.agrees trial timeout state later trivial trivial
  obtain rfl : answer = answer' := answered.trans ((same _ _).trans answeredToo.symm)
  rfl

/-- Tests that are not skipped all come to results of their own calls. -/
theorem TestsRun.complete (full : setup.failFast = false)
    (run : setup.TestsRun point program isKilled tests calls outcome)
    (succeeded : outcome.answer = .ok results)
    : results.map (·.pair) = tests.map (point, ·) ∧ CalledFor calls results := by
  induction run generalizing results with
  | nil =>
      cases succeeded
      exact ⟨rfl, .nil⟩
  | skipped tests maySkip => simp [full] at maySkip
  | panicked => cases succeeded
  | invalid => cases succeeded
  | next _ made answer _ _ ih =>
      rw [ItemOutcome.answer_cons] at succeeded
      obtain ⟨others, ran, rfl⟩ := eq_ok_of_map succeeded
      obtain ⟨pairs, called⟩ := ih ran
      refine ⟨?_, .cons ⟨made.test, answer⟩ called⟩
      rw [List.map_cons, List.map_cons, pairs]
      rfl

/-- Once the mutant is killed the rest of its tests is skipped without a call. -/
theorem TestsRun.skipped_of_killed (maySkip : setup.failFast = true)
    (run : setup.TestsRun point program true tests calls outcome)
    : calls = [] ∧ outcome.answer = .ok (tests.map (listed point · .failFast)) := by
  cases run with
  | nil => exact ⟨rfl, rfl⟩
  | skipped => exact ⟨rfl, rfl⟩
  | panicked _ runs => simp [maySkip] at runs
  | invalid _ runs => simp [maySkip] at runs
  | next runs => simp [maySkip] at runs

/-- Results of the tests of a point say who is skipped if all of them are. -/
theorem map_skipped_of_pairs (pairs : results.map (·.pair) = tests.map (point, ·))
    : results.map MutationResult.skipped = tests.map (listed point · .failFast) := by
  have rebuilt (result : MutationResult)
      : result.skipped = listed result.pair.1 result.pair.2 .failFast :=
    rfl
  have all := congrArg
    (List.map fun pair : MutationPoint × ReachableTest => listed pair.1 pair.2 .failFast) pairs
  simpa [Function.comp_def, ← rebuilt] using all

/-- The first test of a point is called if all of them come to results, and then the others are run.
-/
theorem TestsRun.exists_next {reachable : ReachableTest} {rest : List ReachableTest}
    (run : setup.TestsRun point program false (reachable :: rest) calls outcome)
    (succeeded : outcome.answer = .ok results)
    : ∃ call made result others following,
        calls = call :: made
        ∧ results = listed point reachable result :: following
        ∧ setup.MadeFor program reachable call
        ∧ call.answer = .ok result
        ∧ setup.TestsRun point program (!result.status.isPassed) rest made others
        ∧ others.answer = .ok following := by
  cases run with
  | panicked => cases succeeded
  | invalid => cases succeeded
  | next _ made answer _ others =>
      rw [ItemOutcome.answer_cons] at succeeded
      obtain ⟨following, ran, same⟩ := eq_ok_of_map succeeded
      exact ⟨_, _, _, _, following, rfl, same.symm, made, answer, others, ran⟩

/-- The tests of a point are run in the same way up to the first one that does not pass, by
induction on the tests. Then those that may be skipped are skipped.
-/
theorem TestsRun.masks (repeats : setup.sandbox.Repeats (fun _ => True) id)
    {allCalls : List SandboxCall} {other : ItemOutcome MutationResult}
    {all : List MutationResult}
    (quick : (setup.withFailFast true).TestsRun point program false tests calls outcome)
    (full : (setup.withFailFast false).TestsRun point program false tests allCalls other)
    (succeeded : outcome.answer = .ok results) (succeededToo : other.answer = .ok all)
    : results = masked all ∧ calls <+: allCalls ∧ CalledFor calls (untilKill all) := by
  induction tests generalizing calls outcome results allCalls other all with
  | nil =>
      cases quick
      cases full
      cases succeeded
      cases succeededToo
      exact ⟨rfl, List.prefix_rfl, .nil⟩
  | cons reachable rest ih =>
      obtain ⟨call, calls, result, _, following, rfl, rfl, made, answer, others, ran⟩ :=
        quick.exists_next succeeded
      obtain ⟨again, allCalls, other, _, followingToo, rfl, rfl, madeToo, answerToo, othersToo,
          ranToo⟩ :=
        full.exists_next succeededToo
      -- The call for the test is the same one, and so is its result.
      obtain rfl : call = again := made.unique repeats madeToo
      obtain rfl : result = other := Except.ok.inj (answer.symm.trans answerToo)
      have own : call.trial.test = (listed point reachable result).test
          ∧ call.answer = .ok (listed point reachable result).result :=
        ⟨made.test, answer⟩
      cases passes : result.status.isPassed with
      | true =>
          rw [passes] at others othersToo
          obtain ⟨same, front, called⟩ := ih others othersToo ran ranToo
          rw [masked_passed passes, untilKill_passed passes, same]
          exact ⟨rfl, (List.prefix_cons_inj call).mpr front, .cons own called⟩
      | false =>
          rw [passes] at others othersToo
          obtain ⟨rfl, hidden⟩ := others.skipped_of_killed rfl
          obtain rfl := Except.ok.inj (hidden.symm.trans ran)
          obtain ⟨pairs, -⟩ := othersToo.complete rfl ranToo
          rw [masked_killed passes, untilKill_killed passes, map_skipped_of_pairs pairs]
          exact ⟨rfl, by simp, .cons own .nil⟩

end MutantRuns

-----------------------------------------------------------------------------------------
-- Points and runs
-----------------------------------------------------------------------------------------

/-- A point that was looked at, with the calls made for it and its results. -/
structure PointReport extends PointRecord where
  results : List MutationResult

namespace PointReport

/-- The sandbox was called once for every test that reaches the point, and each call has its result.
-/
structure CompleteFor (point : MutationPoint) (report : PointReport) : Prop where
  own : report.point = point
  pairs : report.results.map (·.pair) = point.reachableTests.map (point, ·)
  called : CalledFor report.calls report.results

/-- The reports of a point only differ in that the tests after the first one that did not pass are
skipped: the other calls are the same ones, and so are their results.
-/
structure Masks (quick full : PointReport) : Prop where
  point : quick.point = full.point
  results : quick.results = masked full.results
  calls : quick.calls <+: full.calls
  called : CalledFor quick.calls (untilKill full.results)

end PointReport

/-- The reports of a run: its records with the results that each of them contributes. -/
structure Reported (records : List PointRecord) (results : List MutationResult)
    (reports : List PointReport)
    : Prop where
  records : reports.map (·.toPointRecord) = records
  results : reports.flatMap (·.results) = results

/-- A trace without an error has a report for every item. -/
theorem Trace.reports {spec : α → PointRecord → Except TaskError (List MutationResult) → Prop}
    {items : List α} {records : List PointRecord} {results : List MutationResult}
    (trace : Trace spec items records (.ok results))
    : ∃ reports,
        Reported records results reports
        ∧ List.Forall₂ (fun item report => spec item report.toPointRecord (.ok report.results))
            items reports := by
  obtain ⟨entries, rfl, rfl, fitting⟩ := trace.entries_of_ok
  refine ⟨entries.map fun entry => { toPointRecord := entry.1, results := entry.2 }, ⟨?_, ?_⟩,
    List.forall₂_map_right_iff.mpr fitting⟩
  · rw [List.map_map]
    rfl
  · rw [List.flatMap_map]

namespace MutantRuns

variable {setup : MutantRuns σ} {program : LoadedProgram} {point : MutationPoint}

theorem AnsweredPoint.record_point {record : PointRecord}
    {answer : Except TaskError (List MutationResult)}
    (answered : setup.AnsweredPoint program point record answer)
    : record.point = point := by
  obtain ⟨outcome, run, -⟩ := answered
  cases run <;> rfl

/-- Without skipping a point that succeeds is reported completely. -/
theorem AnsweredPoint.complete (full : setup.failFast = false) {report : PointReport}
    (answered : setup.AnsweredPoint program point report.toPointRecord (.ok report.results))
    : report.CompleteFor point := by
  have own := answered.record_point
  obtain ⟨outcome, run, succeeded⟩ := answered
  rcases report with ⟨record, results⟩
  cases run with
  | missing => cases succeeded
  | located _ run =>
      obtain ⟨pairs, called⟩ := run.complete full succeeded
      exact ⟨own, pairs, called⟩

/-- In the same program a point is run in the same way as long as no test is skipped. -/
theorem AnsweredPoint.masks (repeats : setup.sandbox.Repeats (fun _ => True) id)
    {quick full : PointReport}
    (skipping
      : (setup.withFailFast true).AnsweredPoint program point quick.toPointRecord
          (.ok quick.results))
    (complete
      : (setup.withFailFast false).AnsweredPoint program point full.toPointRecord
          (.ok full.results))
    : quick.Masks full := by
  have same : quick.point = full.point := skipping.record_point.trans complete.record_point.symm
  obtain ⟨outcome, run, succeeded⟩ := skipping
  obtain ⟨other, runToo, succeededToo⟩ := complete
  rcases quick with ⟨record, results⟩
  rcases full with ⟨recordToo, all⟩
  cases run with
  | missing => cases succeeded
  | located located run =>
      cases runToo with
      | missing => cases succeededToo
      | located locatedToo runToo =>
          obtain ⟨rfl, rfl⟩ := Prod.mk.inj (Except.ok.inj (located.symm.trans locatedToo))
          obtain ⟨hidden, calls, called⟩ := run.masks repeats runToo succeeded succeededToo
          exact ⟨same, hidden, calls, called⟩

end MutantRuns

-----------------------------------------------------------------------------------------
-- Engines
-----------------------------------------------------------------------------------------

namespace Engine

/-- The same engine for real runs with the given workers, told whether to skip tests after a kill.
-/
def forReal (engine : Engine σ) (counts : WorkerCounts) (failFast : Bool) : Engine σ :=
  ((engine.withCounts counts).withDryRun false).withFailFast failFast

/-- A real run over some points that succeeds looks at all of them in the program that it has
loaded.
-/
theorem recordMutants_answered (engine : Engine σ)
    (real : engine.configuration.run.dryRun = false) {points : List MutationPoint}
    (some : points ≠ []) {objects : List ObjectFile} {trampolined : List String} {sandbox : σ}
    {results : List MutationResult}
    (succeeded
      : (engine.recordMutants points objects trampolined (sandbox, [])).1 = .ok results)
    : ∃ program,
        (engine.mutantRuns objects trampolined).source.load = .ok program
        ∧ Trace ((engine.mutantRuns objects trampolined).AnsweredPoint program) points
            (engine.recordMutants points objects trampolined (sandbox, [])).2.2
            (.ok results) := by
  have ran : (engine.runMutants points objects trampolined sandbox).1 = .ok results := by
    rw [engine.runMutants_recorded points objects trampolined (sandbox, [])]
    exact succeeded
  exact engine.recordMutants_trace_of_ok (somebody_of_runMutants some ran) real some
    (fun _ loaded => MutantRuns.recordingTask_answered loaded) succeeded

/-- What a run that skips tests hides, in a sandbox that repeats its answers in all states. -/
theorem recordMutants_masked (engine : Engine σ)
    (repeats : engine.sandbox.Repeats (fun _ => True) id) (few many : WorkerCounts)
    (points : List MutationPoint) (objects : List ObjectFile) (trampolined : List String)
    (first second : σ)
    : let quick := (engine.forReal few true).recordMutants points objects trampolined (first, [])
      let full := (engine.forReal many false).recordMutants points objects trampolined (second, [])
      ∀ fast all,
        quick.1 = .ok fast
        → full.1 = .ok all
        → ∃ quickReports fullReports,
            Reported quick.2.2 fast quickReports
            ∧ Reported full.2.2 all fullReports
            ∧ List.Forall₂ PointReport.CompleteFor points fullReports
            ∧ List.Forall₂ PointReport.Masks quickReports fullReports := by
  intro quick full fast all succeeded succeededToo
  by_cases empty : points = []
  · -- Nothing is loaded for no points, and hence nothing is traced.
    subst empty
    cases succeeded
    cases succeededToo
    exact ⟨[], [], ⟨rfl, rfl⟩, ⟨rfl, rfl⟩, .nil, .nil⟩
  · have repeatsToo : (engine.mutantRuns objects trampolined).sandbox.Repeats (fun _ => True) id :=
      repeats
    obtain ⟨program, loaded, trace⟩ :=
      (engine.forReal few true).recordMutants_answered rfl empty succeeded
    obtain ⟨programToo, loadedToo, traceToo⟩ :=
      (engine.forReal many false).recordMutants_answered rfl empty succeededToo
    obtain rfl : program = programToo := Except.ok.inj (loaded.symm.trans loadedToo)
    obtain ⟨quickReports, reported, skipping⟩ := trace.reports
    obtain ⟨fullReports, reportedToo, complete⟩ := traceToo.reports
    refine ⟨quickReports, fullReports, reported, reportedToo, ?_, ?_⟩
    · exact complete.imp fun point full answered => answered.complete rfl
    · refine (forall₂_join skipping complete).imp fun quick full ⟨point, one, other⟩ => ?_
      exact MutantRuns.AnsweredPoint.masks repeatsToo one other

/-- A run that skips the tests of a mutant after it was killed hides the results of these tests and
nothing else, as long as the sandbox repeats its answers in the states in which it may be. Wherever
it and the full run succeed, there is one report of each point in both. The full run calls the
sandbox once for every test. The other one makes the same calls, with the same results, up to the
first test of the point that does not pass, and lists the rest as skipped. Recording the calls
changes nothing, and the runs need neither start in the same state nor have the same workers.
-/
theorem runMutants_masked (engine : Engine σ) (states : σ → Prop)
    (repeats : engine.sandbox.Repeats states id) (few many : WorkerCounts)
    (points : List MutationPoint) (objects : List ObjectFile) (trampolined : List String)
    (first second : σ) (start : states first) (startToo : states second)
    : let skipping := engine.forReal few true
      let complete := engine.forReal many false
      let quick := skipping.recordMutants points objects trampolined (first, [])
      let full := complete.recordMutants points objects trampolined (second, [])
      skipping.runMutants points objects trampolined first = (quick.1, quick.2.1)
      ∧ complete.runMutants points objects trampolined second = (full.1, full.2.1)
      ∧ ∀ fast all,
          quick.1 = .ok fast
          → full.1 = .ok all
          → ∃ quickReports fullReports,
              Reported quick.2.2 fast quickReports
              ∧ Reported full.2.2 all fullReports
              ∧ List.Forall₂ PointReport.CompleteFor points fullReports
              ∧ List.Forall₂ PointReport.Masks quickReports fullReports := by
  intro skipping complete quick full
  refine ⟨skipping.runMutants_recorded points objects trampolined (first, []),
    complete.runMutants_recorded points objects trampolined (second, []), ?_⟩
  -- In a sandbox that only has the states in question the answers are repeated everywhere.
  let known := engine.sandbox.within repeats.stays
  have acts (counts : WorkerCounts) (failFast : Bool)
      : known.ActsLike (engine.forReal counts failFast).sandbox Subtype.val :=
    engine.sandbox.within_actsLike repeats.stays
  have quickView := recordMutants_view (acts few true) points objects trampolined
    (⟨first, start⟩, [])
  have fullView := recordMutants_view (acts many false) points objects trampolined
    (⟨second, startToo⟩, [])
  have masks := (engine.withSandbox known).recordMutants_masked repeats.within few many points
    objects trampolined ⟨first, start⟩ ⟨second, startToo⟩
  change quick = _ at quickView
  change full = _ at fullView
  rw [quickView, fullView]
  exact masks

section

open Sample.Single

/-- Two points of the sample. A single worker that may skip tests stops at the first test of one
point and at the second one of the other; two workers that may not skip tests run all of them.
-/
theorem single_runMutants_masked
    : let again :=
        point.withReachableTests
          (reachedPoint.reachableTests.reverse ++ reachedPoint.reachableTests)
      let points := [reachedPoint, again]
      let quick :=
        (engineByName.forReal (.uniform 1 1) true).recordMutants points objects ["one"] ((), [])
      let full :=
        (engineByName.forReal (.uniform 2 1) false).recordMutants points objects ["one"] ((), [])
      (quick.2.2.flatMap (·.calls)).map (·.trial.test.id) = ["first", "second", "first"]
      ∧ (full.2.2.flatMap (·.calls)).map (·.trial.test.id)
        = ["first", "second", "second", "first", "first", "second"]
      ∧ ∃ fast all quickReports fullReports,
          quick.1 = .ok fast
          ∧ full.1 = .ok all
          ∧ fast.map (·.result.status)
            = [.failed, .failFast, .passed, .failed, .failFast, .failFast]
          ∧ all.map (·.result.status) = [.failed, .passed, .passed, .failed, .failed, .passed]
          ∧ Reported quick.2.2 fast quickReports
          ∧ Reported full.2.2 all fullReports
          ∧ List.Forall₂ PointReport.CompleteFor points fullReports
          ∧ List.Forall₂ PointReport.Masks quickReports fullReports := by
  intro again points quick full
  have repeats : engineByName.sandbox.Repeats (fun _ => True) id :=
    ⟨fun _ _ same => ⟨congrArg _ same, congrArg _ same⟩, fun _ _ _ _ => trivial,
      fun _ _ _ _ _ _ => rfl⟩
  have quickStatuses : quick.1.map (List.map (·.result.status))
      = .ok [.failed, .failFast, .passed, .failed, .failFast, .failFast] := by
    decide
  have fullStatuses : full.1.map (List.map (·.result.status))
      = .ok [.failed, .passed, .passed, .failed, .failed, .passed] := by
    decide
  obtain ⟨fast, succeeded, shown⟩ := eq_ok_of_map quickStatuses
  obtain ⟨all, succeededToo, shownToo⟩ := eq_ok_of_map fullStatuses
  obtain ⟨-, -, masks⟩ :=
    runMutants_masked engineByName (fun _ => True) repeats (.uniform 1 1) (.uniform 2 1) points
      objects ["one"] () () trivial trivial
  obtain ⟨quickReports, fullReports, reports⟩ := masks fast all succeeded succeededToo
  exact ⟨by decide, by decide, fast, all, quickReports, fullReports, succeeded, succeededToo, shown,
    shownToo, reports⟩

end

end Engine

end MutationTesting
