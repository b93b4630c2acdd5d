import MutationTesting.Proofs.Run.FailFast
import MutationTesting.Proofs.Run.Outcome
import MutationTesting.Proofs.Run.WorkerCounts

/-! A dry run lists what a real run does. Both go through the same points and tests in the same
order, and the timeout that is listed for a test is the one that the sandbox is called with, unless
the test is skipped because its mutant is killed already.
-/

namespace MutationTesting

-----------------------------------------------------------------------------------------
-- Plans and what becomes of them
-----------------------------------------------------------------------------------------

/-- A test of the point did not pass. -/
def KilledIn (results : List MutationResult) (point : MutationPoint) : Prop :=
  ∃ result ∈ results, result.point = point ∧ result.result.status.isPassed = false

/-- The results of a real run and the calls that its sandbox gets, against the planned runs, where
some results may have come before. The sandbox is called once for every planned run that is not
skipped, in their order.
-/
inductive FollowsPlan (failFast : Bool)
    : (before planned results : List MutationResult) → List SandboxCall → Prop
  | nil {before : List MutationResult} : FollowsPlan failFast before [] [] []
  /-- The test is run with the timeout that was planned for it. -/
  | called {before planned results : List MutationResult} {plan result : MutationResult}
      {call : SandboxCall} {calls : List SandboxCall} (pair : result.pair = plan.pair)
      (test : call.trial.test = plan.test) (timeout : call.timeout = plan.result.runningTime)
      (answer : call.answer = .ok result.result)
      (others : FollowsPlan failFast (result :: before) planned results calls)
      : FollowsPlan failFast before (plan :: planned) (result :: results) (call :: calls)
  /-- The test is skipped, since another one has killed the mutant of the point already. -/
  | skipped {before planned results : List MutationResult} {plan result : MutationResult}
      {calls : List SandboxCall} (pair : result.pair = plan.pair) (maySkip : failFast = true)
      (killed : KilledIn before plan.point) (skip : result.result = .failFast)
      (others : FollowsPlan failFast (result :: before) planned results calls)
      : FollowsPlan failFast before (plan :: planned) (result :: results) calls

theorem KilledIn.mono {results more : List MutationResult} {point : MutationPoint}
    (killed : KilledIn results point) (inside : results ⊆ more)
    : KilledIn more point := by
  obtain ⟨result, member, own, failed⟩ := killed
  exact ⟨result, inside member, own, failed⟩

namespace FollowsPlan

variable {failFast : Bool} {before planned results : List MutationResult}
  {calls : List SandboxCall}

/-- More results may have come before. -/
theorem mono (follows : FollowsPlan failFast before planned results calls)
    {earlier : List MutationResult} (inside : before ⊆ earlier)
    : FollowsPlan failFast earlier planned results calls := by
  induction follows generalizing earlier with
  | nil => exact .nil
  | called pair test timeout answer _ ih =>
      exact .called pair test timeout answer (ih (List.cons_subset_cons _ inside))
  | skipped pair maySkip killed skip _ ih =>
      exact .skipped pair maySkip (killed.mono inside) skip (ih (List.cons_subset_cons _ inside))

/-- A plan is followed in parts. -/
theorem append (front : FollowsPlan failFast before planned results calls)
    {more others : List MutationResult} {further : List SandboxCall}
    (back : FollowsPlan failFast [] more others further)
    : FollowsPlan failFast before (planned ++ more) (results ++ others) (calls ++ further) := by
  induction front with
  | nil => exact back.mono (List.nil_subset _)
  | called pair test timeout answer _ ih => exact .called pair test timeout answer ih
  | skipped pair maySkip killed skip _ ih => exact .skipped pair maySkip killed skip ih

/-- A plan that is followed is about the same pairs. -/
theorem pairs (follows : FollowsPlan failFast before planned results calls)
    : results.map (·.pair) = planned.map (·.pair) := by
  induction follows with
  | nil => rfl
  | called pair _ _ _ _ ih => rw [List.map_cons, List.map_cons, pair, ih]
  | skipped pair _ _ _ _ ih => rw [List.map_cons, List.map_cons, pair, ih]

end FollowsPlan

-----------------------------------------------------------------------------------------
-- Points
-----------------------------------------------------------------------------------------

/-- Only a success is mapped to a success. -/
theorem eq_ok_of_map {change : α → β} {answer : Except ε α} {output : β}
    (mapped : answer.map change = .ok output)
    : ∃ input, answer = .ok input ∧ change input = output := by
  cases answer with
  | error _ => cases mapped
  | ok input => exact ⟨input, rfl, Except.ok.inj mapped⟩

namespace MutantRuns

/-- The planned runs of a point. -/
def plan (setup : MutantRuns σ) (point : MutationPoint) : List MutationResult :=
  point.reachableTests.map (plannedRun setup.timeouts point)

/-- Whenever a point succeeds, its results and its calls follow its plan. -/
def PlannedPoint (setup : MutantRuns σ) (point : MutationPoint) (record : PointRecord)
    (answer : Except TaskError (List MutationResult))
    : Prop :=
  ∀ results,
    answer = .ok results → FollowsPlan setup.failFast [] (setup.plan point) results record.calls

/-- When all tests of a point are skipped, their plan is followed without calls. -/
theorem followsPlan_skip (setup : MutantRuns σ) (maySkip : setup.failFast = true)
    (point : MutationPoint) (tests : List ReachableTest) {before : List MutationResult}
    (killed : KilledIn before point)
    : FollowsPlan setup.failFast before (tests.map (plannedRun setup.timeouts point))
        (tests.map (listed point · .failFast)) [] := by
  induction tests generalizing before with
  | nil => exact .nil
  | cons reachable rest ih =>
      exact .skipped rfl maySkip killed rfl (ih (killed.mono (List.subset_cons_self _ _)))

/-- The tests of a point follow their plan if they all succeed: a test is called with its own
timeout until one of them kills the mutant and the rest may be skipped.
-/
theorem TestsRun.followsPlan {setup : MutantRuns σ} {point : MutationPoint}
    {program : LoadedProgram} {isKilled : Bool} {tests : List ReachableTest}
    {calls : List SandboxCall} {outcome : ItemOutcome MutationResult}
    (run : setup.TestsRun point program isKilled tests calls outcome)
    {before : List MutationResult} (kills : isKilled = true → KilledIn before point)
    {results : List MutationResult} (succeeded : outcome.answer = .ok results)
    : FollowsPlan setup.failFast before (tests.map (plannedRun setup.timeouts point)) results calls
    := by
  induction run generalizing before results with
  | nil =>
      cases succeeded
      exact .nil
  | skipped tests maySkip =>
      cases succeeded
      exact setup.followsPlan_skip maySkip point tests (kills rfl)
  | panicked => cases succeeded
  | invalid => cases succeeded
  | @next isKilled reachable rest call calls result outcome _ made answer valid others ih =>
      -- Whether the rest may be skipped is told by this result and those before it.
      have killsToo (killed : (isKilled || !result.status.isPassed) = true)
          : KilledIn (listed point reachable result :: before) point := by
        rcases Bool.or_eq_true_iff.mp killed with earlier | failed
        · exact (kills earlier).mono (List.subset_cons_self _ _)
        · have own : result.status.isPassed = false := by simpa using failed
          exact ⟨_, List.mem_cons_self, rfl, own⟩
      rw [ItemOutcome.answer_cons] at succeeded
      obtain ⟨more, ran, rfl⟩ := eq_ok_of_map succeeded
      exact .called rfl made.test made.timeout answer (ih killsToo ran)

/-- Every point that is looked at leaves a record that follows its plan. -/
theorem recordPoint_planned (setup : MutantRuns σ)
    : NotesItem (fun _ => True) (·.sandbox.2) setup.PlannedPoint setup.recordPoint := by
  intro point bench _
  obtain ⟨record, noted, run⟩ := setup.recordPoint_run point bench
  refine ⟨trivial, record, noted, fun results succeeded => ?_⟩
  generalize (setup.recordPoint point bench).1 = outcome at run succeeded
  cases run with
  | missing => cases succeeded
  | located _ run =>
      exact run.followsPlan (fun killed => absurd killed Bool.false_ne_true) succeeded

/-- Points that follow their plans one by one follow them together, by induction on the points. -/
theorem followsPlan_of_trace {setup : MutantRuns σ} {points : List MutationPoint}
    {records : List PointRecord} {results : List MutationResult}
    (trace : Trace setup.PlannedPoint points records (.ok results))
    : FollowsPlan setup.failFast [] (points.flatMap setup.plan) results
        (records.flatMap (·.calls)) := by
  generalize answered : (Except.ok results : Except TaskError _) = answer at trace
  induction trace generalizing results with
  | nil =>
      cases answered
      exact .nil
  | @next point points record records outputs answer own _ ih =>
      obtain ⟨others, rfl, rfl⟩ := eq_ok_of_map answered.symm
      rw [List.flatMap_cons, List.flatMap_cons]
      exact (own outputs rfl).append (ih rfl)
  | stop => cases answered

end MutantRuns

-----------------------------------------------------------------------------------------
-- Engines
-----------------------------------------------------------------------------------------

/-- The same engine, told whether to only plan the runs of mutants. -/
def Engine.withDryRun (engine : Engine σ) (dryRun : Bool) : Engine σ :=
  { engine with configuration.run.dryRun := dryRun }

namespace Engine

/-- A run in which nobody takes part fails, unless there is nothing to do. -/
theorem runMutants_nobody {engine : Engine σ}
    (nobody : engine.configuration.counts.mutantExecution = 0) (points : List MutationPoint)
    (objects : List ObjectFile) (trampolined : List String) (sandbox : σ)
    : (engine.runMutants points objects trampolined sandbox).1
      = if points.isEmpty then .ok [] else .error (.noWorkers points.length) := by
  refine Eq.trans ?_ (execute_nobody points sandbox)
  rw [runMutants, nobody]
  rfl

/-- A run over some points that succeeds has somebody who takes part in it. -/
theorem somebody_of_runMutants {engine : Engine σ} {points : List MutationPoint}
    (some : points ≠ []) {objects : List ObjectFile} {trampolined : List String} {sandbox : σ}
    {results : List MutationResult}
    (succeeded : (engine.runMutants points objects trampolined sandbox).1 = .ok results)
    : 0 < engine.configuration.counts.mutantExecution := by
  refine Nat.pos_of_ne_zero fun nobody => ?_
  rw [runMutants_nobody nobody] at succeeded
  simp [some] at succeeded

/-- A real run over some points that succeeds has loaded its program, and what the records of
workers say in this program holds of the records of the whole run.
-/
theorem recordMutants_trace_of_ok (engine : Engine σ)
    (pos : 0 < engine.configuration.counts.mutantExecution)
    (real : engine.configuration.run.dryRun = false) {points : List MutationPoint}
    (some : points ≠ []) {objects : List ObjectFile} {trampolined : List String}
    {spec
      : LoadedProgram
        → MutationPoint
        → PointRecord
        → Except TaskError (List MutationResult)
        → Prop}
    (notes
      : ∀ program,
          (engine.mutantRuns objects trampolined).source.load = .ok program
          → NotesTask Prod.snd (spec program)
              (engine.mutantRuns objects trampolined).recordingTask)
    {sandbox : σ} {results : List MutationResult}
    (succeeded
      : (engine.recordMutants points objects trampolined (sandbox, [])).1 = .ok results)
    : ∃ program,
        (engine.mutantRuns objects trampolined).source.load = .ok program
        ∧ Trace (spec program) points
            (engine.recordMutants points objects trampolined (sandbox, [])).2.2
            (.ok results) := by
  cases loaded : (engine.mutantRuns objects trampolined).source.load with
  | error error =>
      -- There is no trace of such a run, but it cannot have succeeded either.
      have failed := engine.runMutants_of_load_error pos real some loaded sandbox
      rw [engine.runMutants_recorded points objects trampolined (sandbox, []), succeeded] at failed
      cases failed
  | ok program =>
      have trace := engine.recordMutants_trace_of pos real points (notes program loaded) sandbox
      dsimp only at trace
      rw [succeeded] at trace
      exact ⟨program, rfl, trace⟩

/-- The results and calls of a real run that succeeds follow the plans of its points. -/
theorem recordMutants_followsPlan (engine : Engine σ)
    (pos : 0 < engine.configuration.counts.mutantExecution)
    (real : engine.configuration.run.dryRun = false) {points : List MutationPoint}
    {objects : List ObjectFile} {trampolined : List String} {sandbox : σ}
    {results : List MutationResult}
    (succeeded
      : (engine.recordMutants points objects trampolined (sandbox, [])).1 = .ok results)
    : FollowsPlan engine.configuration.run.failFast []
        (points.flatMap (engine.mutantRuns objects trampolined).plan) results
        ((engine.recordMutants points objects trampolined (sandbox, [])).2.2.flatMap (·.calls))
    := by
  let setup := engine.mutantRuns objects trampolined
  by_cases empty : points = []
  · subst empty
    cases succeeded
    exact .nil
  · obtain ⟨program, -, trace⟩ :=
      engine.recordMutants_trace_of_ok pos real empty
        (fun program loaded =>
          MutantRuns.recordingTask_notes_of setup.recordPoint_planned (fun _ => trivial) loaded)
        succeeded
    exact MutantRuns.followsPlan_of_trace trace

/-- A run over mutants that succeeds has one result for every pair, in their order, whether the
pairs are run or only planned.
-/
theorem pairs_of_runMutants (engine : Engine σ) {points : List MutationPoint}
    {objects : List ObjectFile} {trampolined : List String} {sandbox : σ}
    {results : List MutationResult}
    (succeeded : (engine.runMutants points objects trampolined sandbox).1 = .ok results)
    : results.map (·.pair) = pairsOf points := by
  have planned
      : (points.flatMap (engine.mutantRuns objects trampolined).plan).map (·.pair)
        = pairsOf points := by
    simp only [MutantRuns.plan, List.map_flatMap, List.map_map]
    rfl
  by_cases empty : points = []
  · subst empty
    cases succeeded
    rfl
  · have pos := somebody_of_runMutants empty succeeded
    cases real : engine.configuration.run.dryRun with
    | true =>
        rw [engine.runMutants_dryRun pos real] at succeeded
        cases succeeded
        exact planned
    | false =>
        rw [engine.runMutants_recorded points objects trampolined (sandbox, [])] at succeeded
        exact (engine.recordMutants_followsPlan pos real succeeded).pairs.trans planned

/-- A dry run always succeeds, and a real run that succeeds does what it lists, however many workers
take part in either of them. Both have the same pairs in the same order, and the sandbox of the real
run is called for the listed pairs that are not skipped, in their order and with the listed
timeouts. A pair is skipped only after another test of its point did not pass. The calls of the
sandbox are recorded on the way, which changes nothing.
-/
theorem runMutants_followsPlan (engine : Engine σ) (few many : WorkerCounts)
    (somebody : 0 < few.mutantExecution) (others : 0 < many.mutantExecution)
    (points : List MutationPoint) (objects : List ObjectFile) (trampolined : List String)
    (first second : σ)
    : let planning := (engine.withCounts few).withDryRun true
      let running := (engine.withCounts many).withDryRun false
      let recorded := running.recordMutants points objects trampolined (second, [])
      running.runMutants points objects trampolined second = (recorded.1, recorded.2.1)
      ∧ ∃ planned,
          (planning.runMutants points objects trampolined first).1 = .ok planned
          ∧ (∀ plan ∈ planned, plan.result.status = .dryRun)
          ∧ ∀ results,
              recorded.1 = .ok results
              → results.map (·.pair) = planned.map (·.pair)
                ∧ FollowsPlan engine.configuration.run.failFast [] planned results
                    (recorded.2.2.flatMap (·.calls)) := by
  intro planning running recorded
  refine ⟨running.runMutants_recorded points objects trampolined (second, []), _,
    planning.runMutants_dryRun somebody rfl points objects trampolined first, ?_, ?_⟩
  · intro plan member
    obtain ⟨point, -, listed⟩ := List.mem_flatMap.mp member
    obtain ⟨reachable, -, rfl⟩ := List.mem_map.mp listed
    rfl
  · intro results succeeded
    have follows := running.recordMutants_followsPlan others rfl succeeded
    exact ⟨follows.pairs, follows⟩

section

open Sample.Single

/-- The sample with two workers: the plan has both tests, and the real run calls the first one with
the timeout that is planned for it and skips the second one, since the first one kills the mutant.
-/
theorem single_runMutants_followsPlan
    : let engine := engineByName.withFailFast true
      let running := (engine.withCounts (.uniform 2 1)).withDryRun false
      let recorded := running.recordMutants [reachedPoint] objects ["one"] ((), [])
      (recorded.2.2.flatMap (·.calls)).map (·.trial.test.id) = ["first"]
      ∧ ∃ planned results,
          (((engine.withCounts (.uniform 1 1)).withDryRun true).runMutants [reachedPoint] objects
              ["one"] ()).1
            = .ok planned
          ∧ (running.runMutants [reachedPoint] objects ["one"] ()).1 = .ok results
          ∧ results.map (·.result.status) = [.failed, .failFast]
          ∧ FollowsPlan true [] planned results (recorded.2.2.flatMap (·.calls)) := by
  intro engine running recorded
  obtain ⟨same, planned, plans, -, follows⟩ :=
    runMutants_followsPlan engine (.uniform 1 1) (.uniform 2 1) (by decide) (by decide)
      [reachedPoint] objects ["one"] () ()
  have statuses : recorded.1.map (List.map (·.result.status)) = .ok [.failed, .failFast] := by
    decide
  obtain ⟨results, succeeded, shown⟩ := eq_ok_of_map statuses
  refine ⟨by decide, planned, results, plans, ?_, shown, (follows results succeeded).2⟩
  rw [same]
  exact succeeded

end

end Engine

end MutationTesting
