import MutationTesting.Proofs.Report.Verdicts
import MutationTesting.Proofs.Run.PointRuns
import MutationTesting.Proofs.Scheduling.Blocks
import MutationTesting.Run.Engine

/-! The results of a run over mutants are blocks, one for every point in order. A block has one
result for every test that reaches the point, and its statuses tell which tests were skipped.
-/

namespace MutationTesting

-----------------------------------------------------------------------------------------
-- The statuses of the tests of a point
-----------------------------------------------------------------------------------------

/-- How a test that was run may have ended. -/
def ExecutionStatus.Decided (status : ExecutionStatus) : Prop :=
  status = .passed ∨ status = .failed ∨ status = .timedout ∨ status = .crashed

theorem ExecutionStatus.Decided.ne_invalid {status : ExecutionStatus} (decided : status.Decided)
    : status ≠ .invalid := by
  rcases decided with rfl | rfl | rfl | rfl <;> decide

theorem ExecutionStatus.Decided.ne_failFast {status : ExecutionStatus} (decided : status.Decided)
    : status ≠ .failFast := by
  rcases decided with rfl | rfl | rfl | rfl <;> decide

theorem ExecutionStatus.Decided.kills {status : ExecutionStatus} (decided : status.Decided)
    : status.kills = !status.isPassed := by
  rcases decided with rfl | rfl | rfl | rfl <;> rfl

/-- The sandbox answers every call with the way in which the test ended. -/
def Sandbox.Decides (sandbox : Sandbox σ) : Prop :=
  ∀ trial timeout state,
    ∃ result, (sandbox.run trial timeout state).1 = .ok result ∧ result.status.Decided

/-- Tests are skipped after the first one that did not pass, if tests may be skipped at all; all
others are run.
-/
def SkipsAfterKill (failFast : Bool) : (isKilled : Bool) → List ExecutionStatus → Prop
  | _, [] => True
  | isKilled, status :: rest =>
      (if failFast && isKilled then status = .failFast else status.Decided)
      ∧ SkipsAfterKill failFast (isKilled || !status.isPassed) rest

/-- Without skipping every test is run. -/
theorem SkipsAfterKill.decided {isKilled : Bool} {statuses : List ExecutionStatus}
    (full : SkipsAfterKill false isKilled statuses)
    : ∀ status ∈ statuses, status.Decided := by
  induction statuses generalizing isKilled with
  | nil => simp
  | cons status rest ih =>
      intro other member
      rcases List.mem_cons.mp member with rfl | later
      · exact full.1
      · exact ih full.2 other later

-----------------------------------------------------------------------------------------
-- The results of a point
-----------------------------------------------------------------------------------------

/-- The pairs of a point and a test that reaches it, in the order in which they are run. -/
def pairsOf (points : List MutationPoint) : List (MutationPoint × ReachableTest) :=
  points.flatMap fun point => point.reachableTests.map (point, ·)

/-- The results of a point: one for every test, in order, with statuses as tests are skipped. -/
structure PointBlock (failFast : Bool) (point : MutationPoint) (results : List MutationResult)
    : Prop where
  pairs : results.map (·.pair) = point.reachableTests.map (point, ·)
  statuses : SkipsAfterKill failFast false (results.map (·.result.status))

namespace MutantRuns

variable {setup : MutantRuns σ} {point : MutationPoint}

/-- The next test of a point always comes to a result: it is skipped, or the sandbox decides. -/
theorem nextResult_decided (decides : setup.sandbox.Decides) (isKilled : Bool)
    (reachable : ReachableTest) (bench : Bench σ)
    : ∃ result after,
        setup.nextResult isKilled reachable bench = (.ok result, after)
        ∧ if setup.failFast && isKilled then
            result.status = .failFast
          else
            result.status.Decided := by
  cases skips : setup.failFast && isKilled with
  | true => exact ⟨.failFast, bench, setup.nextResult_skip skips reachable bench, rfl⟩
  | false =>
      obtain ⟨result, answered, decided⟩ :=
        decides { program := bench.program, test := reachable.test }
          (setup.timeouts.timeoutFor reachable.test.baseline.runningTime) bench.sandbox
      rw [setup.nextResult_run skips, runTest_apply]
      exact ⟨result, _, Prod.ext answered rfl, decided⟩

/-- The tests of a point all come to results, and nothing stops them. By induction on the tests.
-/
theorem runTests_decided (decides : setup.sandbox.Decides) (isKilled : Bool)
    (tests : List ReachableTest) (bench : Bench σ)
    : let outcome := (setup.runTests point isKilled tests bench).1
      outcome.stop = none
      ∧ outcome.outputs.map (·.pair) = tests.map (point, ·)
      ∧ SkipsAfterKill setup.failFast isKilled (outcome.outputs.map (·.result.status)) := by
  induction tests generalizing isKilled bench with
  | nil => exact ⟨rfl, rfl, trivial⟩
  | cons reachable rest ih =>
      obtain ⟨result, after, ran, status⟩ :=
        nextResult_decided decides isKilled reachable bench
      have valid : result.status ≠ .invalid := by
        split at status
        · rw [status]
          decide
        · exact status.ne_invalid
      obtain ⟨finished, pairs, skips⟩ := ih (isKilled || !result.status.isPassed) after
      rw [runTests_next rest ran valid]
      refine ⟨finished, ?_, status, skips⟩
      rw [List.map_cons, List.map_cons, pairs]
      rfl

/-- A worker whose sandbox decides leaves a block for every point. -/
theorem task_blocks (decides : setup.sandbox.Decides)
    : TaskBlocks (fun _ => True) (PointBlock setup.failFast) setup.task := by
  refine ⟨fun _ _ _ => trivial, fun points sandbox _ finished => ?_⟩
  cases loaded : setup.source.load with
  | error error =>
      rw [task_of_error loaded] at finished
      simp at finished
  | ok program =>
      have distinct := (ProgramSource.load_ready loaded).distinct
      have blocks : TaskBlocks (fun bench : Bench σ => bench.program = program)
          (PointBlock setup.failFast) (Task.ofItems setup.runPoint) := by
        refine .ofItems ?_ ?_
        · rintro point ⟨program, sandbox⟩ rfl
          exact runPoint_program distinct
        · rintro point ⟨program, sandbox⟩ rfl completed
          cases located : setup.locate program point with
          | error error =>
              rw [runPoint_error located] at completed
              simp at completed
          | ok place =>
              obtain ⟨-, pairs, skips⟩ :=
                runTests_decided decides false point.reachableTests
                  { program := program.withMutant place.1 place.2, sandbox }
              rw [runPoint_ok distinct located]
              exact ⟨pairs, skips⟩
      rw [task_of_load loaded] at finished ⊢
      exact blocks.blocks points _ rfl finished

/-- A worker reaches the end of points whose mutants are all found. -/
theorem task_finishes (decides : setup.sandbox.Decides) {program : LoadedProgram}
    (loaded : setup.source.load = .ok program) {points : List MutationPoint}
    (resolves : ∀ point ∈ points, ∃ place, setup.locate program point = .ok place) (sandbox : σ)
    : (setup.task points sandbox).1.stop = none := by
  have distinct := (ProgramSource.load_ready loaded).distinct
  rw [task_of_load loaded]
  refine Task.ofItems_finishes (fun bench : Bench σ => bench.program = program) ?_ ?_ _ rfl
  · rintro point ⟨program, sandbox⟩ rfl
    exact runPoint_program distinct
  · rintro point member ⟨program, sandbox⟩ rfl
    obtain ⟨place, located⟩ := resolves point member
    rw [runPoint_ok distinct located]
    exact (runTests_decided decides false point.reachableTests _).1

end MutantRuns

-----------------------------------------------------------------------------------------
-- All results
-----------------------------------------------------------------------------------------

theorem InBlocks.pairs {failFast : Bool} {points : List MutationPoint}
    {results : List MutationResult}
    (blocks : InBlocks (PointBlock failFast) points results)
    : results.map (·.pair) = pairsOf points :=
  blocks.map_eq_flatMap fun _ _ own => own.pairs

/-- A run that does not skip tests runs them all. -/
theorem InBlocks.decided {points : List MutationPoint} {results : List MutationResult}
    (blocks : InBlocks (PointBlock false) points results)
    : ∀ result ∈ results, result.result.status.Decided := by
  induction points generalizing results with
  | nil => simp [blocks.of_nil]
  | cons point rest ih =>
      obtain ⟨first, others, rfl, own, following⟩ := blocks.uncons
      intro result member
      rcases List.mem_append.mp member with here | later
      · exact own.statuses.decided _ (List.mem_map_of_mem here)
      · exact ih following result later

-----------------------------------------------------------------------------------------
-- Engines
-----------------------------------------------------------------------------------------

namespace Engine

variable (engine : Engine σ) {points : List MutationPoint} {objects : List ObjectFile}
  {trampolined : List String}

/-- A dry run lists the planned runs of all pairs. -/
theorem runMutants_dryRun (pos : 0 < engine.configuration.counts.mutantExecution)
    (planned : engine.configuration.run.dryRun) (points : List MutationPoint)
    (objects : List ObjectFile) (trampolined : List String) (sandbox : σ)
    : (engine.runMutants points objects trampolined sandbox).1
      = .ok
          (points.flatMap fun point =>
            point.reachableTests.map (plannedRun engine.configuration.run.timeouts point)) := by
  have task : engine.mutantTask objects trampolined
      = dryRunTask engine.configuration.run.timeouts :=
    if_pos planned
  have blocks : TaskBlocks (fun _ : σ => True)
      (fun point outputs =>
        outputs = point.reachableTests.map (plannedRun engine.configuration.run.timeouts point))
      (engine.mutantTask objects trampolined) := by
    rw [task]
    exact .ofItems (fun _ _ _ => trivial) fun _ _ _ _ => rfl
  obtain ⟨outputs, succeeded⟩ : ∃ outputs,
      (engine.runMutants points objects trampolined sandbox).1 = .ok outputs := by
    refine execute_finishes blocks.keeps pos (fun part _ state start => ?_) sandbox trivial
    rw [task]
    exact Task.ofItems_finishes (fun _ => True) (fun _ _ _ => trivial) (fun _ _ _ _ => rfl) state
      start
  rw [succeeded, (execute_blocks blocks points sandbox trivial succeeded).eq_flatMap]

/-- A run whose mutants are all found, in a sandbox that decides, leaves a block for every point.
-/
theorem runMutants_blocks (decides : engine.sandbox.Decides)
    (pos : 0 < engine.configuration.counts.mutantExecution)
    (real : engine.configuration.run.dryRun = false) {program : LoadedProgram}
    (loaded : (engine.mutantRuns objects trampolined).source.load = .ok program)
    (resolves
      : ∀ point ∈ points,
          ∃ place, (engine.mutantRuns objects trampolined).locate program point = .ok place)
    (sandbox : σ)
    : ∃ results,
        (engine.runMutants points objects trampolined sandbox).1 = .ok results
        ∧ InBlocks (PointBlock engine.configuration.run.failFast) points results := by
  have task : engine.mutantTask objects trampolined
      = (engine.mutantRuns objects trampolined).task :=
    if_neg (by simp [real])
  have blocks : TaskBlocks (fun _ : σ => True) (PointBlock engine.configuration.run.failFast)
      (engine.mutantTask objects trampolined) := by
    have decidesToo : (engine.mutantRuns objects trampolined).sandbox.Decides := decides
    rw [task]
    exact MutantRuns.task_blocks decidesToo
  obtain ⟨results, succeeded⟩ : ∃ results,
      (engine.runMutants points objects trampolined sandbox).1 = .ok results := by
    refine execute_finishes blocks.keeps pos (fun part inside state _ => ?_) sandbox trivial
    rw [task]
    have decidesToo : (engine.mutantRuns objects trampolined).sandbox.Decides := decides
    exact MutantRuns.task_finishes decidesToo loaded
      (fun point member => resolves point (inside member)) state
  exact ⟨results, succeeded, execute_blocks blocks points sandbox trivial succeeded⟩

end Engine

end MutationTesting
