import Mathlib.Data.List.Forall2
import MutationTesting.Proofs.Scheduling.SequentialPass

/-! Sharing items among workers is all or nothing. Every worker whose shard has items is given just
these, and the outputs of all of them are added in the order of the shards. As soon as one of them
fails or panics nothing is added, whatever it and the others have made, and the error is that of the
first shard that failed.
-/

namespace MutationTesting

-----------------------------------------------------------------------------------------
-- What workers are given and what they return
-----------------------------------------------------------------------------------------

/-- The items that a worker was given and what came of them. -/
structure TaskRecord (α β : Type) where
  worker : Nat
  items : List α
  outcome : TaskOutcome β
deriving DecidableEq

/-- The task of the worker with the given number when it is recorded. -/
def Task.recording (worker : Nat) (task : Task σ α β)
    : Task (σ × List (TaskRecord α β)) α β := fun items state =>
  let ran := task items state.1
  (ran.1, (ran.2, state.2 ++ [{ worker, items, outcome := ran.1 }]))

/-- The tasks of numbered workers when they are recorded. -/
def recordingTasks (tasks : List (Task σ α β)) : List (Task (σ × List (TaskRecord α β)) α β) :=
  tasks.mapIdx Task.recording

/-- The workers that have something to do: each has its task, its shard and its number. -/
def assignments (tasks : List τ) (items : List α) : List ((τ × Shard) × Nat) :=
  (tasks.zip (shards items.length tasks.length)).zipIdx.filter (!·.1.2.isEmpty)

/-- The record is that of a worker with its task and its shard. -/
structure TaskRecord.IsOf (items : List α) (share : (Task σ α β × Shard) × Nat)
    (record : TaskRecord α β)
    : Prop where
  worker : record.worker = share.2
  items : record.items = share.1.2.slice items
  outcome : ∃ state, record.outcome = (share.1.1 record.items state).1

-----------------------------------------------------------------------------------------
-- Recorded workers
-----------------------------------------------------------------------------------------

namespace Execution

/-- Recorded workers do what they do otherwise and leave their records in the order of the shards,
where those whose shard is empty are passed over. By induction on the shares.
-/
theorem runShards_recording (items : List α) {shares : List (Task σ α β × Shard)}
    (inside : ∀ share ∈ shares, share.2.last ≤ items.length) (number : Nat) (state : σ)
    (earlier : List (TaskRecord α β))
    : let ran := runShards (shares.map fun share => (share.1, share.2.slice items)) state
      ∃ records,
        runShards
            ((shares.zipIdx number).map fun share =>
              (share.1.1.recording share.2, share.1.2.slice items))
            (state, earlier)
          = (ran.1, (ran.2, earlier ++ records))
        ∧ records.map (·.outcome) = ran.1
        ∧ List.Forall₂ (TaskRecord.IsOf items)
            ((shares.zipIdx number).filter (!·.1.2.isEmpty)) records := by
  induction shares generalizing number state earlier with
  | nil =>
      refine ⟨[], ?_, rfl, .nil⟩
      rw [List.append_nil]
      rfl
  | cons share rest ih =>
      obtain ⟨task, shard⟩ := share
      obtain ⟨own, others⟩ := List.forall_mem_cons.mp inside
      rw [List.zipIdx_cons, List.filter_cons, List.map_cons, List.map_cons]
      dsimp only
      cases empty : shard.isEmpty with
      | true =>
          rw [(Shard.slice_eq_nil_iff own).mpr empty]
          exact ih others (number + 1) state earlier
      | false =>
          have some : shard.slice items ≠ [] := by
            simp [Shard.slice_eq_nil_iff own, empty]
          rw [runShards_cons task some, runShards_cons (task.recording number) some]
          let record : TaskRecord α β :=
            {
              worker := number
              items := shard.slice items
              outcome := (task (shard.slice items) state).1
            }
          obtain ⟨records, ran, outcomes, fitting⟩ :=
            ih others (number + 1) (task (shard.slice items) state).2 (earlier ++ [record])
          refine ⟨record :: records, ?_, ?_, .cons ⟨rfl, rfl, state, rfl⟩ fitting⟩
          · rw [List.append_assoc] at ran
            simp only [Task.recording, record, ran]
            rfl
          · rw [List.map_cons, outcomes]

/-- Outcomes none of which is a failure are merged to all outputs in order. -/
theorem merge_succeeded {outcomes : List (TaskOutcome β)}
    (finished : ∀ outcome ∈ outcomes, outcome.stop = none)
    : merge outcomes = .ok (outcomes.flatMap (·.outputs)) := by
  induction outcomes with
  | nil => rfl
  | cons outcome rest ih =>
      obtain ⟨own, others⟩ := List.forall_mem_cons.mp finished
      rw [merge, own, List.flatMap_cons]
      dsimp only
      rw [ih others]
      rfl

/-- The first failure is what outcomes are merged to, however many there are after it. -/
theorem merge_failed {before after : List (TaskOutcome β)} {failed : TaskOutcome β}
    {stop : TaskStop} (finished : ∀ outcome ∈ before, outcome.stop = none)
    (stopped : failed.stop = some stop)
    : merge (before ++ failed :: after) = .error stop.error := by
  induction before with
  | nil =>
      rw [List.nil_append, merge, stopped]
  | cons outcome rest ih =>
      obtain ⟨own, others⟩ := List.forall_mem_cons.mp finished
      rw [List.cons_append, merge, own]
      dsimp only
      rw [ih others]
      rfl

end Execution

/-- Tasks are numbered when they are recorded, and so are their shares. -/
theorem recordingTasks_zip (tasks : List (Task σ α β)) (parts : List Shard) (items : List α)
    : (recordingTasks tasks).zip (parts.map (·.slice items))
      = (tasks.zip parts).zipIdx.map fun share =>
          (share.1.1.recording share.2, share.1.2.slice items) := by
  refine List.ext_getElem? fun number => ?_
  simp only [recordingTasks, List.getElem?_map, List.getElem?_zipIdx, List.getElem?_mapIdx,
    List.zip, List.getElem?_zipWith]
  cases tasks[number]? <;> cases parts[number]? <;> simp

/-- Nobody has anything to do without items. -/
theorem assignments_nil (tasks : List τ) : assignments tasks ([] : List α) = [] := by
  refine List.filter_eq_nil_iff.mpr fun share member => ?_
  have inside : share.1.2 ∈ shards 0 tasks.length :=
    (List.of_mem_zip (List.fst_mem_of_mem_zipIdx member)).2
  have none : share.1.2.last ≤ 0 := last_le_of_mem_shards inside
  simp [Shard.isEmpty]
  omega

/-- Recorded workers share items as they do otherwise. There is a record for each of them that has
something to do, and the outcomes are merged unless there is nobody to have one.
-/
theorem execute_recording (tasks : List (Task σ α β)) (items : List α) (state : σ)
    : let recorded := execute (recordingTasks tasks) items (state, [])
      execute tasks items state = (recorded.1, recorded.2.1)
      ∧ List.Forall₂ (TaskRecord.IsOf items) (assignments tasks items) recorded.2.2
      ∧ (tasks ≠ [] ∨ items = []
          → recorded.1.outputs = Execution.merge (recorded.2.2.map (·.outcome))) := by
  intro recorded
  by_cases empty : items = []
  · subst empty
    rw [assignments_nil]
    exact ⟨rfl, .nil, fun _ => rfl⟩
  by_cases nobody : tasks = []
  · subst nobody
    have unstaffed : recorded = _ := execute_unstaffed empty (state, [])
    rw [unstaffed]
    exact ⟨execute_unstaffed empty state, .nil, by simp [empty]⟩
  · let parts := shards items.length tasks.length
    have size : (recordingTasks tasks).length = tasks.length := List.length_mapIdx
    have staffed : recordingTasks tasks ≠ [] := by
      rw [← List.length_pos_iff, size]
      exact List.length_pos_iff.mpr nobody
    have inside : ∀ share ∈ tasks.zip parts, share.2.last ≤ items.length := fun share member =>
      last_le_of_mem_shards (List.of_mem_zip member).2
    obtain ⟨records, ran, outcomes, fitting⟩ :=
      Execution.runShards_recording items inside 0 state []
    have plain : tasks.zip (parts.map (·.slice items))
        = (tasks.zip parts).map fun share => (share.1, share.2.slice items) :=
      List.zip_map_right ..
    have shared := execute_apply nobody empty state
    have all : recorded = _ := execute_apply staffed empty (state, [])
    dsimp only at shared all
    rw [plain] at shared
    rw [size, recordingTasks_zip, ran] at all
    rw [all, shared]
    exact ⟨rfl, fitting, fun _ => congrArg Execution.merge outcomes.symm⟩

/-- Records of shares come in the order of their numbers. -/
theorem pairwise_worker {tasks : List (Task σ α β)} {items : List α}
    {records : List (TaskRecord α β)}
    (fitting : List.Forall₂ (TaskRecord.IsOf items) (assignments tasks items) records)
    : records.Pairwise (·.worker < ·.worker) := by
  have numbers : (assignments tasks items).map (·.2) = records.map (·.worker) := by
    rw [← List.forall₂_eq_eq_eq, List.forall₂_map_left_iff, List.forall₂_map_right_iff]
    exact fitting.imp fun _ _ own => own.worker.symm
  have increasing : ((assignments tasks items).map (·.2)).Pairwise (· < ·) := by
    refine List.Pairwise.sublist (List.filter_sublist.map _) ?_
    rw [List.zipIdx_map_snd]
    exact List.pairwise_lt_range'
  rwa [numbers, List.pairwise_map] at increasing

/-- Among records that come in the order of their numbers a failure is preceded by a first one, and
this is the one that counts.
-/
theorem exists_first_failure {records : List (TaskRecord α β)}
    (increasing : records.Pairwise (·.worker < ·.worker)) {failed : TaskRecord α β}
    (member : failed ∈ records) (stopped : failed.outcome.stop ≠ none)
    : ∃ first ∈ records,
        ∃ stop,
          first.outcome.stop = some stop
          ∧ (∀ other ∈ records, other.worker < first.worker → other.outcome.stop = none)
          ∧ Execution.merge (records.map (·.outcome)) = .error stop.error := by
  cases found : records.find? (·.outcome.stop.isSome) with
  | none =>
      have finished := List.find?_eq_none.mp found failed member
      simp [stopped] at finished
  | some first =>
      obtain ⟨fails, before, after, rfl, front⟩ := List.find?_eq_some_iff_append.mp found
      obtain ⟨stop, own⟩ := Option.isSome_iff_exists.mp fails
      have finished : ∀ record ∈ before, record.outcome.stop = none := by simpa using front
      rw [List.pairwise_append, List.pairwise_cons] at increasing
      refine ⟨first, by simp, stop, own, fun other inside less => ?_, ?_⟩
      · rcases List.mem_append.mp inside with early | late
        · exact finished other early
        · -- The numbers of the records from the first failure on are not smaller than its own.
          rcases List.mem_cons.mp late with rfl | behind
          · omega
          · have greater := increasing.2.1.1 other behind
            omega
      · rw [List.map_append, List.map_cons]
        exact Execution.merge_failed (by simpa using finished) own

-----------------------------------------------------------------------------------------
-- All or nothing
-----------------------------------------------------------------------------------------

/-- Sharing items among workers, each with a task of its own, adds all of their outputs or none. The
workers whose shards have items are given just these. If all of them reach their end, then what they
made is added in the order of the shards. If some of them fail or panic, then nothing is added,
whatever was made, and the error is that of the first one of these. Without items nobody is given
anything, and nothing is added; without workers that is an error, unless there are no items.
Recording what the workers do changes nothing.
-/
theorem execute_allOrNothing (tasks : List (Task σ α β)) (items : List α) (output : List β)
    (state : σ)
    : let recorded := execute (recordingTasks tasks) items (state, [])
      let records := recorded.2.2
      let answer := (execute tasks items state).1.addTo output
      execute tasks items state = (recorded.1, recorded.2.1)
      ∧ List.Forall₂ (TaskRecord.IsOf items) (assignments tasks items) records
      ∧ (items = [] → records = [] ∧ answer = (.ok (), output))
      ∧ (tasks = []
          → items ≠ []
          → records = [] ∧ answer = (.error (.noWorkers items.length), output))
      ∧ (tasks ≠ []
          → (∀ record ∈ records, record.outcome.stop = none)
          → answer = (.ok (), output ++ records.flatMap (·.outcome.outputs)))
      ∧ ∀ failed ∈ records,
          failed.outcome.stop ≠ none
          → ∃ first ∈ records,
              ∃ stop,
                first.outcome.stop = some stop
                ∧ (∀ other ∈ records, other.worker < first.worker → other.outcome.stop = none)
                ∧ answer = (.error stop.error, output) := by
  intro recorded records answer
  obtain ⟨same, fitting, merged⟩ := execute_recording tasks items state
  have added : answer = recorded.1.addTo output := by
    simp only [answer, same]
    rfl
  have idle (nobody : tasks = []) : records = [] := by
    subst nobody
    exact List.forall₂_nil_left_iff.mp fitting
  refine ⟨same, fitting, fun none => ?_, fun nobody some => ?_, fun somebody finished => ?_,
    fun failed member stopped => ?_⟩
  · subst none
    rw [assignments_nil] at fitting
    refine ⟨List.forall₂_nil_left_iff.mp fitting, ?_⟩
    exact congrArg (Prod.mk _) (List.append_nil output)
  · refine ⟨idle nobody, ?_⟩
    subst nobody
    simp only [answer, execute_unstaffed some]
    rfl
  · have all : ∀ outcome ∈ records.map (·.outcome), outcome.stop = none := by
      simpa using finished
    rw [added, Execution.addTo, merged (.inl somebody), Execution.merge_succeeded all,
      List.flatMap_map]
  · have somebody : tasks ≠ [] := fun nobody => by simp [idle nobody] at member
    obtain ⟨first, inside, stop, own, front, failing⟩ :=
      exists_first_failure (pairwise_worker fitting) member stopped
    refine ⟨first, inside, stop, own, front, ?_⟩
    rw [added, Execution.addTo, merged (.inl somebody), failing]

/-- Of four workers with three items one panics and a later one fails, whereas the last one has no
item on which to panic. The other calls have nobody who fails, no items or no workers.
-/
theorem sample_execute_allOrNothing
    : let fine : Task Unit Nat Nat := fun items => pure { outputs := items.map (10 * ·) }
      let fails : Task Unit Nat Nat := fun items =>
        pure { outputs := items, stop := some (.failed (.unresolvedMutant "mutant" "point")) }
      let panics : Task Unit Nat Nat := fun items =>
        pure { outputs := items, stop := some (.panicked (.text "worker exploded")) }
      let tasks := [fine, panics, fails, panics]
      let records := (execute (recordingTasks tasks) [1, 2, 3] ((), [])).2.2
      records.map (·.worker) = [0, 1, 2]
      ∧ records.map (·.items) = [[1], [2], [3]]
      ∧ (execute tasks [1, 2, 3] ()).1.addTo [7] = (.error (.workerPanicked "worker exploded"), [7])
      ∧ (execute [fine, fine, panics] [1, 2] ()).1.addTo [7] = (.ok (), [7, 10, 20])
      ∧ (execute [panics] [] ()).1.addTo [7] = (.ok (), [7])
      ∧ (execute ([] : List (Task Unit Nat Nat)) [1, 2] ()).1.addTo [7]
        = (.error (.noWorkers 2), [7]) := by
  intro fine fails panics tasks records
  obtain ⟨-, -, -, -, -, failure⟩ := execute_allOrNothing tasks [1, 2, 3] [7] ()
  obtain ⟨-, -, -, -, success, -⟩ := execute_allOrNothing [fine, fine, panics] [1, 2] [7] ()
  obtain ⟨-, -, idle, -, -, -⟩ := execute_allOrNothing [panics] [] [7] ()
  obtain ⟨-, -, -, nobody, -, -⟩ :=
    execute_allOrNothing ([] : List (Task Unit Nat Nat)) [1, 2] [7] ()
  let panicked : TaskRecord Nat Nat :=
    ⟨1, [2], { outputs := [2], stop := some (.panicked (.text "worker exploded")) }⟩
  let failed : TaskRecord Nat Nat :=
    ⟨2, [3], { outputs := [3], stop := some (.failed (.unresolvedMutant "mutant" "point")) }⟩
  have left : records = [⟨0, [1], { outputs := [10] }⟩, panicked, failed] := by decide
  have member : panicked ∈ records := by simp [left]
  refine ⟨by decide, by decide, ?_, ?_, (idle rfl).2, (nobody rfl (by simp)).2⟩
  · obtain ⟨first, inside, stop, own, front, answer⟩ := failure panicked member (by simp [panicked])
    change first ∈ records at inside
    rw [left] at inside
    rw [answer]
    rcases List.mem_cons.mp inside with rfl | later
    · simp at own
    · rcases List.mem_cons.mp later with rfl | last
      · obtain rfl := Option.some.inj own
        rfl
      · -- The failure of the third worker does not count, since the second one panics.
        obtain rfl := List.mem_singleton.mp last
        have finished := front panicked member (by simp [panicked, failed])
        simp [panicked] at finished
  · exact (success (by simp) (by decide)).trans (by decide)

end MutationTesting
