import MutationTesting.Proofs.Configuration.Counts
import MutationTesting.Proofs.Run.Planning
import MutationTesting.Proofs.Run.WorkerCounts

/-! Engines always have workers. A run ends for want of workers only if there is something to do and
its pool is empty; nothing that workers do ends so. An engine that is made from settings has no
empty pool, whatever counts the settings have.
-/

namespace MutationTesting

-----------------------------------------------------------------------------------------
-- Tasks do not report missing workers
-----------------------------------------------------------------------------------------

/-- It is not for want of workers that a task stops. -/
def TaskStop.OfWork (stop : TaskStop) : Prop := ∀ items, stop.error ≠ .noWorkers items

/-- Whenever a task stops early, then over its items. -/
def Task.StopsOverWork (task : Task σ α β) : Prop :=
  ∀ items state, ∀ stop ∈ (task items state).1.stop, stop.OfWork

theorem TaskStop.ofWork_panicked (payload : PanicPayload) : (TaskStop.panicked payload).OfWork :=
  nofun

theorem TaskStop.ofWork_failed {error : TaskError} (other : ∀ items, error ≠ .noWorkers items)
    : (TaskStop.failed error).OfWork :=
  other

/-- A task stops over its items if each of them stops it over what it is, by induction on the items.
-/
theorem Task.stopsOverWork_ofItems {item : α → StateM σ (ItemOutcome β)}
    (stops : ∀ input state, ∀ stop ∈ (item input state).1.stop, stop.OfWork)
    : (Task.ofItems item).StopsOverWork := by
  intro items state
  induction items generalizing state with
  | nil => nofun
  | cons first rest ih =>
      have own := stops first state
      rcases ran : item first state with ⟨outcome, after⟩
      rw [ran] at own
      cases stopped : outcome.stop with
      | some stop =>
          rw [Task.ofItems_stop rest ran stopped]
          exact stopped ▸ own
      | none =>
          rw [Task.ofItems_next rest ran stopped]
          exact ih after

/-- What cannot be loaded is not for want of workers. -/
theorem ProgramSource.load_ofWork {source : ProgramSource} {error : TaskError}
    (failed : source.load = .error error)
    : (TaskStop.failed error).OfWork := by
  rintro items rfl
  rcases source.link_cases with ⟨-, image, linked⟩ | ⟨error, -, unlinked⟩
  · rw [load_of_link linked] at failed
    split at failed <;> cases failed
  · rw [load_of_link_error unlinked] at failed
    cases failed

theorem BaselineRuns.task_stopsOverWork (setup : BaselineRuns σ) : setup.task.StopsOverWork := by
  cases loaded : setup.source.load with
  | error error =>
      intro tests state stop stops
      rw [task_of_error loaded] at stops
      cases stops
      exact ProgramSource.load_ofWork loaded
  | ok program =>
      rw [funext (task_of_load loaded)]
      apply Task.stopsOverWork_ofItems
      intro test state stop stops
      rw [runTest_apply] at stops
      dsimp only at stops
      cases answered : (setup.sandbox.run { program, test } setup.timeout state).1 with
      | ok result =>
          rw [answered] at stops
          cases stops
      | error payload =>
          rw [answered] at stops
          cases stops
          exact TaskStop.ofWork_panicked payload

namespace MutantRuns

variable {setup : MutantRuns σ} {point : MutationPoint}

/-- The tests of a point stop its worker by a panic or because one of them could not be run.
By induction on the tests.
-/
theorem runTests_stops (isKilled : Bool) (tests : List ReachableTest) (bench : Bench σ)
    : ∀ stop ∈ (setup.runTests point isKilled tests bench).1.stop, stop.OfWork := by
  induction tests generalizing isKilled bench with
  | nil => nofun
  | cons reachable rest ih =>
      rcases ran : setup.nextResult isKilled reachable bench with ⟨answer, after⟩
      cases answer with
      | error payload =>
          rw [runTests_panic rest ran]
          rintro stop ⟨⟩
          exact TaskStop.ofWork_panicked payload
      | ok result =>
          by_cases invalid : result.status = .invalid
          · rw [runTests_invalid rest ran invalid]
            rintro stop ⟨⟩
            exact TaskStop.ofWork_failed nofun
          · rw [runTests_next rest ran invalid]
            exact ih _ after

/-- What is missing of a point is its slot or its mutant. -/
theorem locate_ofWork {program : LoadedProgram} {error : TaskError}
    (missing : setup.locate program point = .error error)
    : (TaskStop.failed error).OfWork := by
  rintro items rfl
  unfold locate at missing
  split at missing
  · cases missing
  · split at missing <;> cases missing

theorem task_stopsOverWork (setup : MutantRuns σ) : setup.task.StopsOverWork := by
  intro points sandbox
  cases loaded : setup.source.load with
  | error error =>
      rw [task_of_error loaded]
      rintro stop ⟨⟩
      exact ProgramSource.load_ofWork loaded
  | ok program =>
      rw [task_of_load loaded]
      apply Task.stopsOverWork_ofItems
      rintro point ⟨program, sandbox⟩
      cases located : setup.locate program point with
      | error error =>
          rw [runPoint_error located]
          rintro stop ⟨⟩
          exact locate_ofWork located
      | ok place =>
          rw [runPoint_located located]
          exact runTests_stops false _ _

end MutantRuns

/-- Planning does not stop at all. -/
theorem dryRunTask_stopsOverWork (timeouts : TimeoutPolicy)
    : (dryRunTask timeouts : Task σ MutationPoint MutationResult).StopsOverWork :=
  Task.stopsOverWork_ofItems nofun

/-- The outcomes of workers who stop over their items do not add up to missing workers, by induction
on their shards.
-/
theorem Execution.merge_ofWork {task : Task σ α β} (stops : task.StopsOverWork)
    (parts : List (List α)) (state : σ) (number : Nat)
    : merge (runShards (parts.map (task, ·)) state).1 ≠ .error (.noWorkers number) := by
  induction parts generalizing state with
  | nil => rintro ⟨⟩
  | cons part rest ih =>
      -- An empty shard is skipped and has no outcome.
      by_cases empty : part = []
      · subst empty
        exact ih state
      · have own := stops part state
        have others := ih (task part state).2
        rw [List.map_cons, runShards_cons task empty]
        dsimp only
        cases stopped : (task part state).1.stop with
        | some stop =>
            rw [merge, stopped]
            intro failed
            exact own stop stopped number (Except.error.inj failed)
        | none =>
            rw [merge, stopped]
            dsimp only
            cases merged : merge (runShards (rest.map (task, ·)) (task part state).2).1 with
            | ok outputs => rintro ⟨⟩
            | error error =>
                rw [merged] at others
                exact others

/-- A run over items ends for want of workers only if there are items and no workers. -/
theorem execute_noWorkers_iff {task : Task σ α β} (stops : task.StopsOverWork) {workers : Nat}
    {items : List α} {state : σ} {number : Nat}
    : (execute (List.replicate workers task) items state).1.outputs = .error (.noWorkers number)
      ↔ workers = 0 ∧ items ≠ [] ∧ number = items.length := by
  rcases Nat.eq_zero_or_pos workers with rfl | somebody
  · rw [List.replicate_zero, execute_nobody]
    cases items with
    | nil => simp
    | cons first rest => simp [eq_comm]
  · obtain ⟨parts, -, merged, -⟩ := execute_parts task somebody items state
    rw [merged]
    have never := Execution.merge_ofWork stops parts state number
    simp [never, Nat.ne_of_gt somebody]

-----------------------------------------------------------------------------------------
-- Engines
-----------------------------------------------------------------------------------------

namespace Engine

theorem mutantTask_stopsOverWork (engine : Engine σ) (objects : List ObjectFile)
    (trampolined : List String)
    : (engine.mutantTask objects trampolined).StopsOverWork := by
  unfold mutantTask
  split
  · exact dryRunTask_stopsOverWork _
  · exact MutantRuns.task_stopsOverWork _

/-- A run of tests lacks workers exactly if there are tests and the pool for them is empty. -/
theorem runBaselines_noWorkers_iff {engine : Engine σ} {tests : List UnitTest}
    {objects : List ObjectFile} {trampolined : List String} {state : σ} {number : Nat}
    : (engine.runBaselines tests objects trampolined state).1 = .error (.noWorkers number)
      ↔ engine.configuration.counts.testExecution = 0 ∧ tests ≠ [] ∧ number = tests.length :=
  execute_noWorkers_iff (engine.baselineRuns objects trampolined).task_stopsOverWork

/-- A run over mutants, real or planned, lacks workers exactly if there are points and the pool for
them is empty.
-/
theorem runMutants_noWorkers_iff {engine : Engine σ} {points : List MutationPoint}
    {objects : List ObjectFile} {trampolined : List String} {state : σ} {number : Nat}
    : (engine.runMutants points objects trampolined state).1 = .error (.noWorkers number)
      ↔ engine.configuration.counts.mutantExecution = 0 ∧ points ≠ [] ∧ number = points.length :=
  execute_noWorkers_iff (engine.mutantTask_stopsOverWork objects trampolined)

/-- No run of the engine ends for want of workers. -/
structure AlwaysStaffed (engine : Engine σ) : Prop where
  baselines
    : ∀ tests objects trampolined state number,
        (engine.runBaselines tests objects trampolined state).1 ≠ .error (.noWorkers number)
  mutants
    : ∀ points objects trampolined state number,
        (engine.runMutants points objects trampolined state).1 ≠ .error (.noWorkers number)

/-- Pools that are not empty never lack workers. -/
theorem alwaysStaffed {engine : Engine σ} (staffed : engine.configuration.counts.Staffed)
    : engine.AlwaysStaffed where
  baselines _ _ _ _ _ failed :=
    Nat.ne_of_gt staffed.testExecution (runBaselines_noWorkers_iff.mp failed).1
  mutants _ _ _ _ _ failed :=
    Nat.ne_of_gt staffed.mutantExecution (runMutants_noWorkers_iff.mp failed).1

/-- An engine always has workers. Whatever counts its settings have, none of its runs ends for want
of workers, whether mutants are run or only planned, and also if its sandbox is replaced. A count
that is not zero is the number of workers among whom a run is shared; a pool without a size of its
own takes the general size, and the general size is the number of cores if none is given. It does
not matter whether zeros have been replaced before.
-/
theorem ofConfiguration_alwaysStaffed (configuration : Configuration) (cores : Nat)
    (runner : Runner) (someCores : 0 < cores)
    : let engine := ofConfiguration configuration cores runner
      let used := engine.configuration.counts
      engine.AlwaysStaffed
      ∧ (∀ (τ : Type) (sandbox : Sandbox τ), (engine.withSandbox sandbox).AlwaysStaffed)
      ∧ configuration.counts.Replaced cores used
      ∧ (∀ tests objects trampolined host,
          let task := (engine.baselineRuns objects trampolined).task
          (engine.runBaselines tests objects trampolined host).1
          = (execute (List.replicate used.testExecution task) tests host).1.outputs)
      ∧ (∀ points objects trampolined host,
          let task := engine.mutantTask objects trampolined
          (engine.runMutants points objects trampolined host).1
          = (execute (List.replicate used.mutantExecution task) points host).1.outputs)
      ∧ ofConfiguration (configuration.normalize cores) cores runner = engine := by
  intro engine used
  have staffed : used.Staffed := configuration.counts.normalize_staffed someCores
  refine ⟨alwaysStaffed staffed, fun τ sandbox => alwaysStaffed staffed, ?_, ?_, ?_, ?_⟩
  · exact configuration.counts.normalize_replaced cores
  · intro tests objects trampolined host
    rfl
  · intro points objects trampolined host
    rfl
  · have same := configuration.normalize_normalize cores
    simp only [engine, ofConfiguration, same]
    rfl

/-- Settings with zeros on a machine with two cores, where one pool has a size of its own. Without
replacing its zeros the same engine would find nobody to look at a point.
-/
theorem idle_ofConfiguration_alwaysStaffed
    : let configuration : Configuration :=
        { counts := { mutantExecution := 5 }, run := { dryRun := true } }
      let engine := ofConfiguration configuration 2 Sample.runner
      let idle : Engine Host := { engine with configuration := { configuration with counts := {} } }
      0 < 2
      ∧ engine.AlwaysStaffed
      ∧ engine.configuration.counts = { workers := 2, testExecution := 2, mutantExecution := 5 }
      ∧ (∀ host, (idle.runMutants Sample.points Sample.objects Sample.trampolined host).1
          = .error (.noWorkers 6)) := by
  intro configuration engine idle
  have staffed := ofConfiguration_alwaysStaffed configuration 2 Sample.runner (by decide)
  refine ⟨by decide, staffed.1, by decide, fun host => ?_⟩
  exact runMutants_noWorkers_iff.mpr ⟨rfl, by decide, rfl⟩

end Engine

end MutationTesting
