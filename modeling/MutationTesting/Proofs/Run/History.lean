import MutationTesting.Proofs.Run.Repetition
import MutationTesting.Sample.Single

/-! A worker forgets the shards that it has run. It keeps its program from one shard to the next,
also when a shard fails in the middle of a point, but all slots of a program that is kept lead to
their own functions again. Hence a further shard is answered as by a new worker, and each point of
it as if it were the only one.
-/

namespace MutationTesting

/-- A worker between two shards: the program that it keeps, if any, and what its sandbox acts on.
-/
structure Worker (σ : Type) where
  kept : Option LoadedProgram := none
  sandbox : σ

namespace MutantRuns

-----------------------------------------------------------------------------------------
-- Workers that run shards
-----------------------------------------------------------------------------------------

/-- A worker runs a shard: its answer, and the worker as it is afterwards. -/
def serve (setup : MutantRuns σ) (worker : Worker σ) (points : List MutationPoint)
    : Except TaskError (List MutationResult) × Worker σ :=
  let ran := setup.runShard worker.kept points worker.sandbox
  (ran.1.1.answer, { kept := ran.1.2, sandbox := ran.2 })

/-- A worker that has run some shards one after the other, however each of them ended. -/
def serveAll (setup : MutantRuns σ) (worker : Worker σ) (shards : List (List MutationPoint))
    : Worker σ :=
  shards.foldl (fun worker points => (setup.serve worker points).2) worker

/-- What is shown of the answer of a worker to a shard. -/
def shownAnswer (setup : MutantRuns σ) (shown : ExecutionResult → ExecutionResult)
    (worker : Worker σ) (points : List MutationPoint)
    : Except TaskError (List MutationResult) :=
  seen (MutationResult.view shown) (setup.serve worker points).1

/-- The program that a worker keeps is the one that it would load, and has no mutant in place. -/
structure Clean (setup : MutantRuns σ) (states : σ → Prop) (worker : Worker σ) : Prop where
  kept : ∀ program, worker.kept = some program → setup.source.load = .ok program
  known : states worker.sandbox

variable {setup : MutantRuns σ} {states : σ → Prop} {shown : ExecutionResult → ExecutionResult}
  {worker : Worker σ} {program : LoadedProgram}

theorem Clean.new {sandbox : σ} (known : states sandbox) : setup.Clean states { sandbox } :=
  ⟨by simp, known⟩

/-- A worker runs its points in the program that it would load, whether or not it keeps one. -/
theorem Clean.runShard_eq (clean : setup.Clean states worker)
    (loaded : setup.source.load = .ok program) (points : List MutationPoint)
    : setup.runShard worker.kept points worker.sandbox
      = let ran := Task.ofItems setup.runPoint points { program, sandbox := worker.sandbox }
        let kept :=
          match ran.1.stop with
          | some (.panicked _) => none
          | _ => some ran.2.program
        ((ran.1, kept), ran.2.sandbox) := by
  have atHand : worker.kept.elim setup.source.load .ok = .ok program := by
    cases held : worker.kept with
    | none => exact loaded
    | some other => exact (clean.kept other held).symm.trans loaded
  simp only [runShard, atHand]
  rfl

/-- A worker whose program cannot be loaded keeps none, and fails again. -/
theorem Clean.runShard_error (clean : setup.Clean states worker) {error : TaskError}
    (failed : setup.source.load = .error error) (points : List MutationPoint)
    : setup.runShard worker.kept points worker.sandbox
      = (({ stop := some (.failed error) }, none), worker.sandbox) := by
  have atHand : worker.kept.elim setup.source.load .ok = .error error := by
    cases held : worker.kept with
    | none => exact failed
    | some other => simp [clean.kept other held] at failed
  simp only [runShard, atHand]

/-- A shard leaves a worker clean, however it ends. -/
theorem Clean.serve (repeats : setup.sandbox.Repeats states shown)
    (clean : setup.Clean states worker) (points : List MutationPoint)
    : setup.Clean states (setup.serve worker points).2 := by
  cases loaded : setup.source.load with
  | error error =>
      simp only [MutantRuns.serve, clean.runShard_error loaded]
      exact .new clean.known
  | ok program =>
      have distinct := (ProgramSource.load_ready loaded).distinct
      obtain ⟨-, restored, known⟩ :=
        (runPoint_follows repeats distinct clean.known).ofItems points
          { program, sandbox := worker.sandbox } ⟨rfl, clean.known⟩
      simp only [MutantRuns.serve, clean.runShard_eq loaded]
      refine ⟨fun kept same => ?_, known⟩
      rw [restored] at same
      split at same
      · cases same
      · exact loaded.trans (congrArg Except.ok (Option.some.inj same))

/-- Any number of shards leave a worker clean, by induction on the shards. -/
theorem Clean.serveAll (repeats : setup.sandbox.Repeats states shown)
    (clean : setup.Clean states worker) (shards : List (List MutationPoint))
    : setup.Clean states (setup.serveAll worker shards) := by
  induction shards generalizing worker with
  | nil => exact clean
  | cons points rest ih => exact ih (clean.serve repeats points)

/-- The answer of a clean worker is a pass over its points, each of which is answered as in the
loaded program.
-/
theorem Clean.shownAnswer_eq (repeats : setup.sandbox.Repeats states shown)
    (clean : setup.Clean states worker) (loaded : setup.source.load = .ok program) {host : σ}
    (known : states host) (points : List MutationPoint)
    : setup.shownAnswer shown worker points
      = sequentially
          (fun point =>
            seen (MutationResult.view shown)
              (setup.runPoint point { program, sandbox := host }).1.answer)
          points := by
  have distinct := (ProgramSource.load_ready loaded).distinct
  obtain ⟨answer, -⟩ :=
    (runPoint_follows repeats distinct known).ofItems points
      { program, sandbox := worker.sandbox } ⟨rfl, clean.known⟩
  simp only [shownAnswer, MutantRuns.serve, clean.runShard_eq loaded]
  exact answer

theorem Clean.shownAnswer_error (clean : setup.Clean states worker) {error : TaskError}
    (failed : setup.source.load = .error error) (points : List MutationPoint)
    : setup.shownAnswer shown worker points = .error error := by
  simp only [shownAnswer, MutantRuns.serve, clean.runShard_error failed]
  rfl

-----------------------------------------------------------------------------------------
-- What is left of earlier shards
-----------------------------------------------------------------------------------------

/-- Nothing is left of earlier shards. After any of them, however they ended, a worker answers a
further shard like a new one. If it succeeds, its results are blocks, one for each point: those
that a new worker has for a shard of this point alone; so that in another order of the points the
same blocks come in that order.
-/
theorem shownAnswer_serveAll (setup : MutantRuns σ) {states : σ → Prop}
    {shown : ExecutionResult → ExecutionResult} (repeats : setup.sandbox.Repeats states shown)
    (history : List (List MutationPoint)) (start fresh : σ) (known : states start)
    (knownToo : states fresh) (points : List MutationPoint)
    : let worker := setup.serveAll { sandbox := start } history
      let new : Worker σ := { sandbox := fresh }
      setup.shownAnswer shown worker points = setup.shownAnswer shown new points
      ∧ ∀ results,
          setup.shownAnswer shown worker points = .ok results
          → ∃ block : MutationPoint → List MutationResult,
              (∀ point ∈ points, setup.shownAnswer shown new [point] = .ok (block point))
              ∧ results = points.flatMap block
              ∧ ∀ reordered,
                  reordered.Perm points
                  → setup.shownAnswer shown worker reordered
                    = .ok (reordered.flatMap block) := by
  intro worker new
  have clean : setup.Clean states worker := Clean.serveAll repeats (.new known) history
  have cleanNew : setup.Clean states new := .new knownToo
  cases loaded : setup.source.load with
  | error error =>
      rw [clean.shownAnswer_error loaded, cleanNew.shownAnswer_error loaded]
      exact ⟨rfl, by simp⟩
  | ok program =>
      have passes := clean.shownAnswer_eq repeats loaded knownToo
      have passesNew := cleanNew.shownAnswer_eq repeats loaded knownToo
      refine ⟨(passes points).trans (passesNew points).symm, fun results succeeded => ?_⟩
      rw [passes] at succeeded
      obtain ⟨block, own, all⟩ := blocks_of_sequentially succeeded
      refine ⟨block, fun point member => ?_, all, fun reordered order => ?_⟩
      · rw [passesNew, sequentially_of_blocks (List.forall_mem_singleton.mpr (own point member)),
          List.flatMap_singleton]
      · rw [passes]
        exact sequentially_of_blocks fun point member => own point (order.mem_iff.mp member)

section

open Sample.Single

/-- A worker of the sample that has failed at an unknown function after some tests answers two more
points like a new worker, in blocks of two results and of one, and in either order.
-/
theorem single_shownAnswer_serveAll
    : let unknown : MutationPoint := { point with function := "two" }
      let other : MutationPoint := point.withReachableTests (reachedPoint.reachableTests.drop 1)
      let worker := runs.serveAll { sandbox := {} } [[reachedPoint], [reachedPoint, unknown]]
      let new : Worker Host := { sandbox := {} }
      runs.sandbox.Repeats (fun host => host.process.deadline = none) id
      ∧ (runs.serve new [reachedPoint, unknown]).1
          = .error (.trampoline (.unregistered "_two_trampoline"))
      ∧ runs.shownAnswer id worker [reachedPoint, other]
          = runs.shownAnswer id new [reachedPoint, other]
      ∧ ∃ block : MutationPoint → List MutationResult,
          (block reachedPoint).map (·.test.id) = ["first", "second"]
          ∧ (block other).map (·.test.id) = ["second"]
          ∧ runs.shownAnswer id worker [reachedPoint, other]
              = .ok (block reachedPoint ++ block other)
          ∧ runs.shownAnswer id worker [other, reachedPoint]
              = .ok (block other ++ block reachedPoint) := by
  intro unknown other worker new
  have repeats : runs.sandbox.Repeats (fun host => host.process.deadline = none) id :=
    Sandbox.ofKind_repeats .null
  obtain ⟨same, blocks⟩ :=
    shownAnswer_serveAll runs repeats [[reachedPoint], [reachedPoint, unknown]] {} {} rfl rfl
      [reachedPoint, other]
  obtain ⟨results, succeeded⟩ : ∃ results,
      runs.shownAnswer id worker [reachedPoint, other] = .ok results := by
    have isOk : (runs.shownAnswer id worker [reachedPoint, other]).isOk := by decide +kernel
    cases answered : runs.shownAnswer id worker [reachedPoint, other] with
    | error error => simp [answered, Except.isOk, Except.toBool] at isOk
    | ok results => exact ⟨results, rfl⟩
  obtain ⟨block, own, rfl, orders⟩ := blocks results succeeded
  have tests (point : MutationPoint) (member : point ∈ [reachedPoint, other])
      : (runs.shownAnswer id new [point]).map (List.map (·.test.id))
        = .ok ((block point).map (·.test.id)) := by
    rw [own point member]
    rfl
  have first := tests reachedPoint (by simp)
  have second := tests other (by simp)
  refine ⟨repeats, by decide, same, block, ?_, ?_, ?_, ?_⟩
  · exact Except.ok.inj (first.symm.trans (by decide))
  · exact Except.ok.inj (second.symm.trans (by decide))
  · simpa using succeeded
  · simpa using orders [other, reachedPoint] (.swap reachedPoint other [])

end

end MutantRuns

end MutationTesting
