import MutationTesting.Proofs.Scheduling.Shards
import MutationTesting.Scheduling.Executor

/-! Sharing items among workers comes to one sequential pass over all items, whatever the number
of workers, when the task of a worker treats each item in the same way wherever it meets it.
What is the same about two outputs is a parameter, so that outputs may differ in their times.
-/

namespace MutationTesting

-----------------------------------------------------------------------------------------
-- One pass over all items
-----------------------------------------------------------------------------------------

/-- Handles items one after the other up to the first that fails. -/
def sequentially (handle : α → Except ε (List β)) : List α → Except ε (List β)
  | [] => .ok []
  | item :: rest =>
      match handle item with
      | .error error => .error error
      | .ok outputs => (sequentially handle rest).map (outputs ++ ·)

/-- A pass may be cut anywhere: its second part counts only when the first one succeeds. -/
theorem sequentially_append (handle : α → Except ε (List β)) (left right : List α)
    : sequentially handle (left ++ right)
      = match sequentially handle left with
        | .error error => .error error
        | .ok outputs => (sequentially handle right).map (outputs ++ ·) := by
  induction left with
  | nil => cases passed : sequentially handle right <;> simp [sequentially, passed, Except.map]
  | cons item rest ih =>
      simp only [List.cons_append, sequentially, ih]
      cases handle item with
      | error error => rfl
      | ok outputs =>
          cases sequentially handle rest with
          | error error => rfl
          | ok others =>
              cases sequentially handle right <;> simp [Except.map]

/-- When every item fails alike, so does every pass over some items. -/
theorem sequentially_error (error : ε) {items : List α} (some : items ≠ [])
    : sequentially (fun _ => (.error error : Except ε (List β))) items = .error error := by
  cases items with
  | nil => contradiction
  | cons item rest => rfl

/-- A pass over items each of which has a block of outputs gives all of these in order. -/
theorem sequentially_of_blocks {handle : α → Except ε (List β)} {block : α → List β}
    {items : List α} (each : ∀ item ∈ items, handle item = .ok (block item))
    : sequentially handle items = .ok (items.flatMap block) := by
  induction items with
  | nil => rfl
  | cons item rest ih =>
      obtain ⟨own, others⟩ := List.forall_mem_cons.mp each
      simp only [sequentially, own, ih others, Except.map, List.flatMap_cons]

/-- A pass that succeeds has a block of outputs for every item, since it does not go on behind an
item that fails.
-/
theorem blocks_of_sequentially {handle : α → Except ε (List β)} {items : List α}
    {outputs : List β} (passed : sequentially handle items = .ok outputs)
    : ∃ block : α → List β,
        (∀ item ∈ items, handle item = .ok (block item)) ∧ outputs = items.flatMap block := by
  have each : ∀ item ∈ items, ∃ own, handle item = .ok own := by
    induction items generalizing outputs with
    | nil => simp
    | cons item rest ih =>
        unfold sequentially at passed
        cases own : handle item with
        | error error => simp [own] at passed
        | ok first =>
            cases others : sequentially handle rest with
            | error error => simp [own, others, Except.map] at passed
            | ok following => exact List.forall_mem_cons.mpr ⟨⟨first, own⟩, ih others⟩
  let block (item : α) : List β := (handle item).toOption.getD []
  have blocks : ∀ item ∈ items, handle item = .ok (block item) := by
    intro item member
    obtain ⟨own, same⟩ := each item member
    simp [block, same, Except.toOption]
  exact ⟨block, blocks, Except.ok.inj (passed.symm.trans (sequentially_of_blocks blocks))⟩

/-- The outputs of an item, or the error by which it stops its task. -/
def ItemOutcome.answer (outcome : ItemOutcome β) : Except TaskError (List β) :=
  match outcome.stop with
  | some stop => .error stop.error
  | none => .ok outcome.outputs

theorem ItemOutcome.answer_cons (output : β) (outcome : ItemOutcome β)
    : ({ outcome with outputs := output :: outcome.outputs } : ItemOutcome β).answer
      = outcome.answer.map (output :: ·) := by
  unfold answer
  cases outcome.stop <;> rfl

/-- The outputs of a task, or the error by which it stopped. -/
def TaskOutcome.answer (outcome : TaskOutcome β) : Except TaskError (List β) :=
  match outcome.stop with
  | some stop => .error stop.error
  | none => .ok outcome.outputs

/-- The same answer with every output seen through a view. -/
def seen (view : β → γ) (answer : Except TaskError (List β)) : Except TaskError (List γ) :=
  answer.map (List.map view)

@[simp] theorem seen_error (view : β → γ) (error : TaskError)
    : seen view (.error error) = .error error :=
  rfl

@[simp] theorem seen_ok (view : β → γ) (outputs : List β)
    : seen view (.ok outputs) = .ok (outputs.map view) :=
  rfl

@[simp] theorem seen_id (answer : Except TaskError (List β)) : seen id answer = answer := by
  cases answer <;> simp

theorem seen_map_cons (view : β → γ) (output : β) (answer : Except TaskError (List β))
    : seen view (answer.map (output :: ·)) = (seen view answer).map (view output :: ·) := by
  cases answer <;> rfl

theorem seen_map_append (view : β → γ) (outputs : List β) (answer : Except TaskError (List β))
    : seen view (answer.map (outputs ++ ·)) = (seen view answer).map (outputs.map view ++ ·) := by
  cases answer <;> simp [Except.map, List.map_append]

-----------------------------------------------------------------------------------------
-- Tasks that treat items alike in all states that may occur
-----------------------------------------------------------------------------------------

/-- In every valid state an item has the answer that `handle` gives, and leaves a valid state.
-/
structure FollowsItem (valid : σ → Prop) (view : β → γ)
    (item : α → StateM σ (ItemOutcome β)) (handle : α → Except TaskError (List γ))
    : Prop where
  answer : ∀ input state, valid state → seen view (item input state).1.answer = handle input
  valid : ∀ input state, valid state → valid (item input state).2

/-- In every valid state a task answers some items by a pass with `handle`, and leaves a valid
state.
-/
structure FollowsTask (valid : σ → Prop) (view : β → γ) (task : Task σ α β)
    (handle : α → Except TaskError (List γ))
    : Prop where
  answer
    : ∀ items state,
        items ≠ []
        → valid state
        → seen view (task items state).1.answer = sequentially handle items
  valid : ∀ items state, items ≠ [] → valid state → valid (task items state).2

/-- An item that stops its task is the last one that is looked at. -/
theorem Task.ofItems_stop {item : α → StateM σ (ItemOutcome β)} {first : α} {state after : σ}
    {outcome : ItemOutcome β} {stop : TaskStop} (rest : List α)
    (ran : item first state = (outcome, after)) (stopped : outcome.stop = some stop)
    : Task.ofItems item (first :: rest) state
      = ({ outputs := outcome.outputs, stop := some stop }, after) := by
  simp only [Task.ofItems, bind, StateT.bind, ran, stopped]
  rfl

/-- After an item that does not stop its task the rest is looked at. -/
theorem Task.ofItems_next {item : α → StateM σ (ItemOutcome β)} {first : α} {state after : σ}
    {outcome : ItemOutcome β} (rest : List α)
    (ran : item first state = (outcome, after)) (goesOn : outcome.stop = none)
    : Task.ofItems item (first :: rest) state
      = let others := Task.ofItems item rest after
        ({
          outputs := outcome.outputs ++ others.1.outputs
          finished := others.1.finished + 1
          stop := others.1.stop
        }, others.2) := by
  simp only [Task.ofItems, bind, StateT.bind, ran, goesOn]
  rfl

/-- A task may be cut anywhere: its second part starts where the first one ends, unless the first
one stops.
-/
theorem Task.ofItems_append (item : α → StateM σ (ItemOutcome β)) (left right : List α)
    (state : σ)
    : (Task.ofItems item (left ++ right) state).2
      = let part := Task.ofItems item left state
        if part.1.stop.isSome then part.2 else (Task.ofItems item right part.2).2 := by
  induction left generalizing state with
  | nil => rfl
  | cons first rest ih =>
      rcases ran : item first state with ⟨outcome, after⟩
      rw [List.cons_append]
      cases stopped : outcome.stop with
      | some stop =>
          rw [Task.ofItems_stop rest ran stopped, Task.ofItems_stop (rest ++ right) ran stopped]
          rfl
      | none =>
          rw [Task.ofItems_next rest ran stopped, Task.ofItems_next (rest ++ right) ran stopped]
          exact ih after

/-- Whatever each item preserves is preserved by all of them, one after the other. -/
theorem Task.ofItems_invariant {item : α → StateM σ (ItemOutcome β)} {items : List α}
    (holds : σ → Prop) (step : ∀ input ∈ items, ∀ state, holds state → holds (item input state).2)
    {state : σ} (start : holds state)
    : holds (Task.ofItems item items state).2 := by
  induction items generalizing state with
  | nil => exact start
  | cons first rest ih =>
      have kept := step first List.mem_cons_self state start
      rcases ran : item first state with ⟨outcome, after⟩
      rw [ran] at kept
      cases stopped : outcome.stop with
      | some stop =>
          rw [Task.ofItems_stop rest ran stopped]
          exact kept
      | none =>
          rw [Task.ofItems_next rest ran stopped]
          exact ih (fun input member => step input (List.mem_cons_of_mem first member)) kept

/-- Items that do the same in a view of their state do the same one after the other. -/
theorem Task.ofItems_view {item : α → StateM σ (ItemOutcome β)}
    {other : α → StateM τ (ItemOutcome β)} (view : τ → σ)
    (same
      : ∀ input state,
          item input (view state) = ((other input state).1, view (other input state).2))
    (items : List α) (state : τ)
    : Task.ofItems item items (view state)
      = ((Task.ofItems other items state).1, view (Task.ofItems other items state).2) := by
  induction items generalizing state with
  | nil => rfl
  | cons first rest ih =>
      have matching := same first state
      rcases ran : other first state with ⟨outcome, after⟩
      rw [ran] at matching
      cases stopped : outcome.stop with
      | some stop =>
          rw [Task.ofItems_stop rest ran stopped, Task.ofItems_stop rest matching stopped]
      | none =>
          rw [Task.ofItems_next rest ran stopped, Task.ofItems_next rest matching stopped, ih]

/-- Taking items one after the other is a pass over them: induction on the items, where each
leaves a state in which the next is treated alike.
-/
theorem FollowsItem.ofItems {valid : σ → Prop} {view : β → γ}
    {item : α → StateM σ (ItemOutcome β)} {handle : α → Except TaskError (List γ)}
    (follows : FollowsItem valid view item handle) (items : List α) (state : σ)
    (start : valid state)
    : seen view (Task.ofItems item items state).1.answer = sequentially handle items
      ∧ valid (Task.ofItems item items state).2 := by
  induction items generalizing state with
  | nil => exact ⟨rfl, start⟩
  | cons first rest ih =>
      rcases ran : item first state with ⟨outcome, after⟩
      have answered := follows.answer first state start
      have kept := follows.valid first state start
      rw [ran] at answered kept
      cases stopped : outcome.stop with
      | some stop =>
          simp only [ItemOutcome.answer, stopped, seen_error] at answered
          rw [Task.ofItems_stop rest ran stopped, sequentially, ← answered]
          exact ⟨rfl, kept⟩
      | none =>
          obtain ⟨others, finish⟩ := ih after kept
          simp only [ItemOutcome.answer, stopped, seen_ok] at answered
          rw [Task.ofItems_next rest ran stopped, sequentially, ← answered, ← others]
          refine ⟨?_, finish⟩
          simp only [TaskOutcome.answer]
          cases (Task.ofItems item rest after).1.stop <;> simp [Except.map]

theorem FollowsItem.task {valid : σ → Prop} {view : β → γ}
    {item : α → StateM σ (ItemOutcome β)} {handle : α → Except TaskError (List γ)}
    (follows : FollowsItem valid view item handle)
    : FollowsTask valid view (Task.ofItems item) handle where
  answer items state _ start := (follows.ofItems items state start).1
  valid items state _ start := (follows.ofItems items state start).2

-----------------------------------------------------------------------------------------
-- Workers
-----------------------------------------------------------------------------------------

namespace Execution

theorem merge_cons (outcome : TaskOutcome β) (rest : List (TaskOutcome β))
    : merge (outcome :: rest)
      = match outcome.answer with
        | .error error => .error error
        | .ok outputs => (merge rest).map (outputs ++ ·) := by
  simp only [merge, TaskOutcome.answer]
  cases outcome.stop <;> rfl

theorem runShards_cons (task : Task σ α β) {items : List α} (some : items ≠ [])
    (rest : List (Task σ α β × List α)) (state : σ)
    : runShards ((task, items) :: rest) state
      = let outcome := task items state
        let others := runShards rest outcome.2
        (outcome.1 :: others.1, others.2) := by
  have filled : items.isEmpty = false := by simpa using some
  simp only [runShards, filled]
  rfl

/-- The merged outcomes of workers are one pass over their shards put together.
Witness: induction on the shards; a pass may be cut between any two of them.
-/
theorem merge_runShards {valid : σ → Prop} {view : β → γ} {task : Task σ α β}
    {handle : α → Except TaskError (List γ)} (follows : FollowsTask valid view task handle)
    (parts : List (List α)) (state : σ) (start : valid state)
    : seen view (merge (runShards (parts.map (task, ·)) state).1)
      = sequentially handle parts.flatten := by
  induction parts generalizing state with
  | nil => rfl
  | cons part rest ih =>
      by_cases empty : part = []
      · subst empty
        exact ih state start
      · have answered := follows.answer part state empty start
        have others := ih _ (follows.valid part state empty start)
        rw [List.map_cons, runShards_cons task empty, List.flatten_cons, sequentially_append,
          ← answered, ← others, merge_cons]
        cases (task part state).1.answer with
        | error error => rfl
        | ok outputs => exact seen_map_append view outputs _

end Execution

/-- Items are shared among tasks by running each task on its shard and merging the outcomes. -/
theorem execute_apply {tasks : List (Task σ α β)} {items : List α} (staffed : tasks ≠ [])
    (filled : items ≠ []) (state : σ)
    : execute tasks items state
      = let parts := (shards items.length tasks.length).map (·.slice items)
        let ran := Execution.runShards (tasks.zip parts) state
        ({
          outputs := Execution.merge ran.1
          finished := some (ran.1.foldl (· + ·.finished) 0)
        }, ran.2) := by
  have someTasks : tasks.isEmpty = false := by simpa using staffed
  have someItems : items.isEmpty = false := by simpa using filled
  simp only [execute, someTasks, someItems]
  rfl

/-- Without workers items are refused as they are. -/
theorem execute_unstaffed {items : List α} (filled : items ≠ []) (state : σ)
    : execute ([] : List (Task σ α β)) items state
      = ({ outputs := .error (.noWorkers items.length), finished := none }, state) := by
  cases items with
  | nil => contradiction
  | cons => rfl

/-- Without workers nothing is done, whatever the task. -/
theorem execute_nobody (items : List α) (state : σ)
    : (execute ([] : List (Task σ α β)) items state).1.outputs
      = if items.isEmpty then .ok [] else .error (.noWorkers items.length) := by
  cases items <;> rfl

/-- Sharing items among workers with one task runs the task on some parts one after the other, which
are all items when put together, and merges what it makes of them.
-/
theorem execute_parts (task : Task σ α β) {workers : Nat} (pos : 0 < workers) (items : List α)
    (state : σ)
    : ∃ parts : List (List α),
        parts.flatten = items
        ∧ (execute (List.replicate workers task) items state).1.outputs
          = Execution.merge (Execution.runShards (parts.map (task, ·)) state).1
        ∧ (execute (List.replicate workers task) items state).2
          = (Execution.runShards (parts.map (task, ·)) state).2 := by
  cases items with
  | nil => exact ⟨[], rfl, rfl, rfl⟩
  | cons first rest =>
      have staffed : List.replicate workers task ≠ [] := by
        simpa using Nat.ne_of_gt pos
      let parts := (shards (first :: rest).length workers).map (·.slice (first :: rest))
      have size : parts.length = workers := by simp [parts, shards]
      have shared : (List.replicate workers task).zip parts = parts.map (task, ·) := by
        rw [← size, ← List.map_const', ← List.map_prod_right_eq_zip]
      refine ⟨parts, flatten_slices_shards (first :: rest) pos, ?_⟩
      rw [execute_apply staffed (List.cons_ne_nil first rest), List.length_replicate, ← shared]
      exact ⟨rfl, rfl⟩

/-- Whatever a task preserves is preserved by any number of workers with this task. -/
theorem execute_invariant {task : Task σ α β} (holds : σ → Prop)
    (kept : ∀ items state, holds state → holds (task items state).2) (workers : Nat)
    (items : List α) {state : σ} (start : holds state)
    : holds (execute (List.replicate workers task) items state).2 := by
  have shards (parts : List (List α)) (state : σ) (start : holds state)
      : holds (Execution.runShards (parts.map (task, ·)) state).2 := by
    induction parts generalizing state with
    | nil => exact start
    | cons part rest ih =>
        by_cases empty : part = []
        · subst empty
          exact ih state start
        · rw [List.map_cons, Execution.runShards_cons task empty]
          exact ih _ (kept part state start)
  rcases Nat.eq_zero_or_pos workers with rfl | pos
  · cases items <;> exact start
  · obtain ⟨parts, -, -, after⟩ := execute_parts task pos items state
    rw [after]
    exact shards parts state start

/-- Sharing items among any number of workers with one task comes to a pass over all items. -/
theorem execute_replicate {valid : σ → Prop} {view : β → γ} {task : Task σ α β}
    {handle : α → Except TaskError (List γ)} (follows : FollowsTask valid view task handle)
    {workers : Nat} (pos : 0 < workers) (items : List α) (state : σ) (start : valid state)
    : seen view (execute (List.replicate workers task) items state).1.outputs
      = sequentially handle items := by
  obtain ⟨parts, all, merged, -⟩ := execute_parts task pos items state
  rw [merged, Execution.merge_runShards follows parts state start, all]

end MutationTesting
