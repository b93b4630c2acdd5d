import MutationTesting.Proofs.Run.PointRuns
import MutationTesting.Proofs.Scheduling.Traces
import MutationTesting.Run.Engine

/-! The calls that a sandbox gets during a run over mutants, recorded point by point with their
answers. Recording them changes nothing else about the run.
-/

namespace MutationTesting

/-- A call that a sandbox gets, and its answer. -/
structure SandboxCall where
  trial : Trial
  timeout : Duration
  answer : Except PanicPayload ExecutionResult

/-- The answer is that the test could not be run at all. -/
def SandboxCall.Invalid (call : SandboxCall) : Prop :=
  ∃ result, call.answer = .ok result ∧ result.status = .invalid

/-- A point that was looked at, with the calls made for it in their order. -/
structure PointRecord where
  point : MutationPoint
  calls : List SandboxCall

/-- Every test of the point that was run could be run. -/
def PointRecord.Valid (record : PointRecord) : Prop := ∀ call ∈ record.calls, ¬ call.Invalid

/-- The sandbox with a list of its calls. -/
def Sandbox.recording (sandbox : Sandbox σ) : Sandbox (σ × List SandboxCall) where
  name := sandbox.name
  run trial timeout := fun state =>
    let ran := sandbox.run trial timeout state.1
    (ran.1, (ran.2, state.2 ++ [{ trial, timeout, answer := ran.1 }]))

/-- The sandbox answers every call by a result, and never by a panic. -/
def Sandbox.Returns (sandbox : Sandbox σ) : Prop :=
  ∀ trial timeout state, ∃ result, (sandbox.run trial timeout state).1 = .ok result

namespace MutantRuns

/-- Runs a point and adds a record of it to those of the points before. -/
def recordPoint (setup : MutantRuns σ) (point : MutationPoint)
    : StateM (Bench (σ × List PointRecord)) (ItemOutcome MutationResult) := fun bench =>
  let recording := setup.withSandbox setup.sandbox.recording
  let ran :=
    recording.runPoint point { program := bench.program, sandbox := (bench.sandbox.1, []) }
  (ran.1, {
    program := ran.2.program
    sandbox := (ran.2.sandbox.1, bench.sandbox.2 ++ [{ point, calls := ran.2.sandbox.2 }])
  })

/-- The task of a worker that records the points it looks at. -/
def recordingTask (setup : MutantRuns σ)
    : Task (σ × List PointRecord) MutationPoint MutationResult := fun points state =>
  match setup.source.load with
  | .error error => ({ stop := some (.failed error) }, state)
  | .ok program =>
      let ran := Task.ofItems setup.recordPoint points { program, sandbox := state }
      (ran.1, ran.2.sandbox)

/-- Recording a point changes nothing else about it. -/
theorem runPoint_recorded (setup : MutantRuns σ) (point : MutationPoint)
    (bench : Bench (σ × List PointRecord))
    : setup.runPoint point (bench.view Prod.fst)
      = let ran := setup.recordPoint point bench
        (ran.1, ran.2.view Prod.fst) := by
  have acts : setup.sandbox.recording.ActsLike setup.sandbox Prod.fst := fun _ _ _ => rfl
  exact runPoint_view acts point { program := bench.program, sandbox := (bench.sandbox.1, []) }

/-- A worker that records its points does what the others do. -/
theorem task_recorded (setup : MutantRuns σ) (points : List MutationPoint)
    (state : σ × List PointRecord)
    : setup.task points state.1
      = let ran := setup.recordingTask points state
        (ran.1, ran.2.1) := by
  cases loaded : setup.source.load with
  | error error =>
      rw [task_of_error loaded]
      simp only [recordingTask, loaded]
  | ok program =>
      have same := Task.ofItems_view (Bench.view Prod.fst) setup.runPoint_recorded points
        { program, sandbox := state }
      change Task.ofItems setup.runPoint points { program, sandbox := state.1 } = _ at same
      rw [task_of_load loaded, same]
      simp only [recordingTask, loaded]
      rfl

end MutantRuns

-----------------------------------------------------------------------------------------
-- The same records in another sandbox
-----------------------------------------------------------------------------------------

section

variable {other : Sandbox τ} {view : τ → σ}

/-- Sandboxes that act alike get the same calls. -/
theorem Sandbox.ActsLike.recording {sandbox : Sandbox σ} (acts : other.ActsLike sandbox view)
    : other.recording.ActsLike sandbox.recording (Prod.map view id) := by
  intro trial timeout state
  simp only [Sandbox.recording, Prod.map_fst, Prod.map_snd, acts trial timeout state.1]
  rfl

namespace MutantRuns

variable {setup : MutantRuns σ}

/-- A point leaves the same record in a sandbox that acts like the given one. -/
theorem recordPoint_view (acts : other.ActsLike setup.sandbox view) (point : MutationPoint)
    (bench : Bench (τ × List PointRecord))
    : setup.recordPoint point (bench.view (Prod.map view id))
      = let ran := (setup.withSandbox other).recordPoint point bench
        (ran.1, ran.2.view (Prod.map view id)) := by
  have actsToo
      : other.recording.ActsLike (setup.withSandbox setup.sandbox.recording).sandbox
          (Prod.map view id) :=
    acts.recording
  rcases bench with ⟨program, state, records⟩
  have same
      : (setup.withSandbox setup.sandbox.recording).runPoint point
          { program, sandbox := (view state, []) }
        = _ :=
    runPoint_view actsToo point { program, sandbox := (state, []) }
  simp only [recordPoint, Bench.view, Prod.map_apply, same]
  rfl

theorem recordingTask_view (acts : other.ActsLike setup.sandbox view)
    (points : List MutationPoint) (state : τ × List PointRecord)
    : setup.recordingTask points (Prod.map view id state)
      = let ran := (setup.withSandbox other).recordingTask points state
        (ran.1, Prod.map view id ran.2) := by
  cases loaded : setup.source.load with
  | error error =>
      have loadedToo : (setup.withSandbox other).source.load = .error error := loaded
      simp only [recordingTask, loaded, loadedToo]
  | ok program =>
      have loadedToo : (setup.withSandbox other).source.load = .ok program := loaded
      have same
          : Task.ofItems setup.recordPoint points { program, sandbox := Prod.map view id state }
            = _ :=
        Task.ofItems_view (Bench.view (Prod.map view id)) (recordPoint_view acts) points
          { program, sandbox := state }
      simp only [recordingTask, loaded, loadedToo, same]
      rfl

end MutantRuns

end

/-- Planning the runs of mutants neither sees nor changes the state. -/
theorem dryRunTask_view (timeouts : TimeoutPolicy) (view : τ → σ) (points : List MutationPoint)
    (state : τ)
    : dryRunTask timeouts points (view state)
      = let ran := dryRunTask timeouts points state
        (ran.1, view ran.2) := by
  unfold dryRunTask
  exact Task.ofItems_view view (fun _ _ => rfl) points state

namespace Engine

/-- The task of a worker that records the points for which it runs tests. -/
def recordingTask (engine : Engine σ) (objects : List ObjectFile) (trampolined : List String)
    : Task (σ × List PointRecord) MutationPoint MutationResult :=
  if engine.configuration.run.dryRun then
    dryRunTask engine.configuration.run.timeouts
  else
    (engine.mutantRuns objects trampolined).recordingTask

/-- A run over mutants that records the points for which tests are run. -/
def recordMutants (engine : Engine σ) (points : List MutationPoint) (objects : List ObjectFile)
    (trampolined : List String)
    : StateM (σ × List PointRecord) (Except TaskError (List MutationResult)) := do
  let task := engine.recordingTask objects trampolined
  let workers := engine.configuration.counts.mutantExecution
  return (← execute (List.replicate workers task) points).outputs

/-- Recording a run over mutants changes nothing else about it. -/
theorem runMutants_recorded (engine : Engine σ) (points : List MutationPoint)
    (objects : List ObjectFile) (trampolined : List String) (state : σ × List PointRecord)
    : engine.runMutants points objects trampolined state.1
      = let ran := engine.recordMutants points objects trampolined state
        (ran.1, ran.2.1) := by
  have same (items : List MutationPoint) (state : σ × List PointRecord)
      : engine.mutantTask objects trampolined items state.1
        = let ran := engine.recordingTask objects trampolined items state
          (ran.1, ran.2.1) := by
    unfold mutantTask recordingTask
    cases engine.configuration.run.dryRun with
    | false => exact (engine.mutantRuns objects trampolined).task_recorded items state
    | true => exact dryRunTask_view _ Prod.fst items state
  have shared := execute_view Prod.fst same engine.configuration.counts.mutantExecution points state
  unfold runMutants recordMutants
  simp only [bind, StateT.bind, shared]
  rfl

/-- A run leaves the same answer and the same records in a sandbox that acts like the given one. -/
theorem recordMutants_view {engine : Engine σ} {other : Sandbox τ} {view : τ → σ}
    (acts : other.ActsLike engine.sandbox view) (points : List MutationPoint)
    (objects : List ObjectFile) (trampolined : List String) (state : τ × List PointRecord)
    : engine.recordMutants points objects trampolined (Prod.map view id state)
      = let ran := (engine.withSandbox other).recordMutants points objects trampolined state
        (ran.1, Prod.map view id ran.2) := by
  have same (items : List MutationPoint) (state : τ × List PointRecord)
      : engine.recordingTask objects trampolined items (Prod.map view id state)
        = let ran := (engine.withSandbox other).recordingTask objects trampolined items state
          (ran.1, Prod.map view id ran.2) := by
    have actsToo : other.ActsLike (engine.mutantRuns objects trampolined).sandbox view := acts
    have planned
        : (engine.withSandbox other).configuration.run.dryRun = engine.configuration.run.dryRun :=
      rfl
    unfold recordingTask
    rw [planned]
    cases engine.configuration.run.dryRun with
    | false => exact MutantRuns.recordingTask_view actsToo items state
    | true => exact dryRunTask_view _ (Prod.map view id) items state
  have shared := execute_view (Prod.map view id) same engine.configuration.counts.mutantExecution
    points state
  unfold recordMutants
  simp only [bind, StateT.bind, shared]
  rfl

end Engine

end MutationTesting
