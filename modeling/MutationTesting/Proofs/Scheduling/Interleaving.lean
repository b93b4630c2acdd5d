import Mathlib.Algebra.GroupWithZero.Nat
import MutationTesting.Proofs.Scheduling.SequentialPass

/-! Workers that run at the same time. A worker handles the items of its shard one by one and then
returns, and the steps of the workers may be interleaved in any order. When what an item comes to
does not depend on the others, every interleaving ends with the same answer, which is that of one
sequential pass over all items.
-/

namespace MutationTesting

variable {σ α β : Type}

-----------------------------------------------------------------------------------------
-- Steps of workers
-----------------------------------------------------------------------------------------

/-- A worker between two of its steps. -/
inductive ShardWorker (σ α β : Type) where
  /-- Some items of the shard are still waiting; those before them led to the given outputs. -/
  | busy (handle : α → StateM σ (ItemOutcome β)) (waiting : List α) (outputs : List β)
      (finished : Nat)
  | returned (outcome : TaskOutcome β)

/-- What a worker may do next, in a state that it shares with all others. -/
inductive ShardWorker.Step : ShardWorker σ α β → σ → ShardWorker σ α β → σ → Prop
  /-- No item is waiting, and the worker returns. -/
  | finish {handle : α → StateM σ (ItemOutcome β)} {outputs : List β} {finished : Nat} {state : σ}
      : Step (.busy handle [] outputs finished) state (.returned { outputs, finished }) state
  /-- The next item is handled. -/
  | next {handle : α → StateM σ (ItemOutcome β)} {item : α} {rest : List α} {outputs : List β}
      {finished : Nat} {state after : σ} {own : ItemOutcome β}
      (ran : handle item state = (own, after)) (goesOn : own.stop = none)
      : Step (.busy handle (item :: rest) outputs finished) state
          (.busy handle rest (outputs ++ own.outputs) (finished + 1)) after
  /-- The next item stops the worker by an error or a panic. -/
  | stop {handle : α → StateM σ (ItemOutcome β)} {item : α} {rest : List α} {outputs : List β}
      {finished : Nat} {state after : σ} {own : ItemOutcome β} {reason : TaskStop}
      (ran : handle item state = (own, after)) (stopped : own.stop = some reason)
      : Step (.busy handle (item :: rest) outputs finished) state
          (.returned { outputs := outputs ++ own.outputs, finished, stop := some reason }) after

/-- Workers that run at the same time, in the order of their shards. -/
structure Crew (σ α β : Type) where
  workers : List (ShardWorker σ α β)
  state : σ

/-- The workers take steps in the order of a schedule, which lists their positions. -/
inductive Crew.Runs : Crew σ α β → List Nat → Crew σ α β → Prop
  | nil (crew : Crew σ α β) : Runs crew [] crew
  | step (before after : List (ShardWorker σ α β)) {worker next : ShardWorker σ α β}
      {state later : σ} {schedule : List Nat} {last : Crew σ α β}
      (turn : worker.Step state next later)
      (others : Runs { workers := before ++ next :: after, state := later } schedule last)
      : Runs { workers := before ++ worker :: after, state } (before.length :: schedule) last

/-- The shards of items, each with the way in which its worker handles an item. -/
def sharesOf (handlers : List (α → StateM σ (ItemOutcome β))) (items : List α)
    : List ((α → StateM σ (ItemOutcome β)) × List α) :=
  handlers.zip ((shards items.length handlers.length).map (·.slice items))

/-- The crew that shares items: each worker starts with its shard, and nobody starts without items.
-/
def Crew.start (handlers : List (α → StateM σ (ItemOutcome β))) (items : List α) (state : σ)
    : Crew σ α β :=
  let shares := (sharesOf handlers items).filter (!·.2.isEmpty)
  { workers := shares.map fun share => .busy share.1 share.2 [] 0, state }

/-- All workers have returned, with the given outcomes. -/
def Crew.Returned (crew : Crew σ α β) (outcomes : List (TaskOutcome β)) : Prop :=
  crew.workers = outcomes.map .returned

/-- What the outcomes of all workers are joined to. -/
def Execution.join (outcomes : List (TaskOutcome β)) : Execution β :=
  {
    outputs := merge outcomes
    finished := some (outcomes.foldl (· + ·.finished) 0)
  }

-----------------------------------------------------------------------------------------
-- What workers are heading for
-----------------------------------------------------------------------------------------

/-- What items come to, one after the other. -/
def pass (outcomeOf : α → ItemOutcome β) (items : List α) : TaskOutcome β :=
  (Task.ofItems (fun item => (pure (outcomeOf item) : StateM Unit _)) items ()).1

section

variable {outcomeOf : α → ItemOutcome β}

@[simp] theorem pass_nil : pass outcomeOf ([] : List α) = {} := rfl

theorem pass_stop {item : α} {reason : TaskStop} (rest : List α)
    (stopped : (outcomeOf item).stop = some reason)
    : pass outcomeOf (item :: rest)
      = { outputs := (outcomeOf item).outputs, stop := some reason } := by
  unfold pass
  rw [Task.ofItems_stop rest rfl stopped]

theorem pass_next {item : α} (rest : List α) (goesOn : (outcomeOf item).stop = none)
    : pass outcomeOf (item :: rest)
      = {
          outputs := (outcomeOf item).outputs ++ (pass outcomeOf rest).outputs
          finished := (pass outcomeOf rest).finished + 1
          stop := (pass outcomeOf rest).stop
        } := by
  unfold pass
  rw [Task.ofItems_next rest rfl goesOn]

/-- The outcome of items that are handled one after the other is a sequential pass over them. -/
theorem answer_pass (items : List α)
    : (pass outcomeOf items).answer = sequentially (fun item => (outcomeOf item).answer) items := by
  have follows : FollowsItem (fun _ : Unit => True) id (fun item => pure (outcomeOf item))
      fun item => (outcomeOf item).answer :=
    ⟨fun _ _ _ => seen_id _, fun _ _ valid => valid⟩
  rw [← (follows.ofItems items () trivial).1, seen_id]
  rfl

namespace ShardWorker

/-- What the worker is going to return if nothing but its own items matters. -/
def outlook (outcomeOf : α → ItemOutcome β) : ShardWorker σ α β → TaskOutcome β
  | .busy _ waiting outputs finished =>
      let rest := pass outcomeOf waiting
      {
        outputs := outputs ++ rest.outputs
        finished := finished + rest.finished
        stop := rest.stop
      }
  | .returned outcome => outcome

/-- What an item comes to does not depend on the state in which the worker meets it. -/
def Independent (outcomeOf : α → ItemOutcome β) : ShardWorker σ α β → Prop
  | .busy handle _ _ _ => ∀ item state, (handle item state).1 = outcomeOf item
  | .returned _ => True

/-- The most steps that the worker may still take. -/
def remaining : ShardWorker σ α β → Nat
  | .busy _ waiting _ _ => waiting.length + 1
  | .returned _ => 0

/-- A step brings a worker closer to its end, and does not change what it is heading for. -/
theorem Step.outlook {worker next : ShardWorker σ α β} {state after : σ}
    (turn : worker.Step state next after) (independent : worker.Independent outcomeOf)
    : next.Independent outcomeOf
      ∧ next.outlook outcomeOf = worker.outlook outcomeOf
      ∧ next.remaining < worker.remaining := by
  cases turn with
  | finish => exact ⟨trivial, by simp [ShardWorker.outlook], Nat.zero_lt_succ _⟩
  | next ran goesOn =>
      obtain rfl := (congrArg Prod.fst ran).symm.trans (independent _ _)
      refine ⟨independent, ?_, Nat.lt_succ_self _⟩
      simp only [ShardWorker.outlook, pass_next _ goesOn, List.append_assoc, TaskOutcome.mk.injEq,
        true_and, and_true]
      omega
  | stop ran stopped =>
      obtain rfl := (congrArg Prod.fst ran).symm.trans (independent _ _)
      exact ⟨trivial, by simp only [ShardWorker.outlook, pass_stop _ stopped, Nat.add_zero],
        Nat.zero_lt_succ _⟩

/-- A worker that has not returned can take a step. -/
theorem exists_step (handle : α → StateM σ (ItemOutcome β)) (waiting : List α) (outputs : List β)
    (finished : Nat) (state : σ)
    : ∃ next after, Step (.busy handle waiting outputs finished) state next after := by
  cases waiting with
  | nil => exact ⟨_, _, .finish⟩
  | cons item rest =>
      rcases ran : handle item state with ⟨own, after⟩
      cases stopped : own.stop with
      | none => exact ⟨_, _, .next ran stopped⟩
      | some reason => exact ⟨_, _, .stop ran stopped⟩

end ShardWorker

-----------------------------------------------------------------------------------------
-- Runs of a crew
-----------------------------------------------------------------------------------------

namespace Crew

/-- The crew is heading for the given outcomes. -/
structure Heading (outcomeOf : α → ItemOutcome β) (crew : Crew σ α β)
    (outcomes : List (TaskOutcome β))
    : Prop where
  independent : ∀ worker ∈ crew.workers, worker.Independent outcomeOf
  outlooks : crew.workers.map (·.outlook outcomeOf) = outcomes

/-- A crew that has returned has the outcomes that it was heading for. -/
theorem Heading.eq_of_returned {crew : Crew σ α β} {outcomes others : List (TaskOutcome β)}
    (heads : crew.Heading outcomeOf outcomes) (returned : crew.Returned others)
    : others = outcomes := by
  rw [← heads.outlooks, returned, List.map_map]
  exact (List.map_id others).symm

/-- The most steps that the crew may still take. -/
def remaining (crew : Crew σ α β) : Nat := (crew.workers.map (·.remaining)).sum

/-- Whichever workers take steps, the crew is heading for the same outcomes, and every step brings
it closer to its end. By induction on the schedule.
-/
theorem Runs.heading {crew last : Crew σ α β} {schedule : List Nat}
    {outcomes : List (TaskOutcome β)} (runs : crew.Runs schedule last)
    (heads : crew.Heading outcomeOf outcomes)
    : last.Heading outcomeOf outcomes ∧ schedule.length + last.remaining ≤ crew.remaining := by
  induction runs with
  | nil => exact ⟨heads, by simp⟩
  | @step before after worker next state later schedule last turn _ ih =>
      obtain ⟨independent, same, fewer⟩ := turn.outlook (heads.independent worker (by simp))
      have headsToo : Heading outcomeOf { workers := before ++ next :: after, state := later }
          outcomes := by
        refine ⟨fun other member => ?_, ?_⟩
        · rcases List.mem_append.mp member with early | late
          · exact heads.independent other (List.mem_append_left _ early)
          · rcases List.mem_cons.mp late with rfl | behind
            · exact independent
            · exact heads.independent other (by simp [behind])
        · rw [← heads.outlooks]
          simp only [List.map_append, List.map_cons, same]
      obtain ⟨kept, bound⟩ := ih headsToo
      refine ⟨kept, ?_⟩
      simp only [remaining, List.map_append, List.map_cons, List.sum_append, List.sum_cons,
        List.length_cons] at bound fewer ⊢
      omega

/-- A crew that has not returned has a worker that is busy. By induction on the workers. -/
theorem returned_or_busy (workers : List (ShardWorker σ α β))
    : (∃ outcomes : List (TaskOutcome β), workers = outcomes.map .returned)
      ∨ ∃ before handle waiting outputs finished after,
          workers = before ++ .busy handle waiting outputs finished :: after := by
  induction workers with
  | nil => exact .inl ⟨[], rfl⟩
  | cons worker rest ih =>
      cases worker with
      | busy handle waiting outputs finished =>
          exact .inr ⟨[], handle, waiting, outputs, finished, rest, rfl⟩
      | returned outcome =>
          rcases ih with ⟨outcomes, rfl⟩ | ⟨before, handle, waiting, outputs, finished, after, rfl⟩
          · exact .inl ⟨outcome :: outcomes, rfl⟩
          · exact .inr ⟨.returned outcome :: before, handle, waiting, outputs, finished, after, rfl⟩

/-- Wherever a crew is, it comes to its end. By induction on the steps that it may still take. -/
theorem Heading.exists_end {crew : Crew σ α β} {outcomes : List (TaskOutcome β)}
    (heads : crew.Heading outcomeOf outcomes)
    : ∃ schedule last outcomes, crew.Runs schedule last ∧ last.Returned outcomes := by
  induction size : crew.remaining using Nat.strongRecOn generalizing crew with
  | _ size ih =>
      rcases crew with ⟨workers, state⟩
      rcases returned_or_busy workers with
        ⟨outcomes, rfl⟩ | ⟨before, handle, waiting, outputs, finished, after, rfl⟩
      · exact ⟨[], _, outcomes, .nil _, rfl⟩
      · obtain ⟨next, later, turn⟩ :=
          ShardWorker.exists_step handle waiting outputs finished state
        have one : Runs _ [before.length] _ := .step before after turn (.nil _)
        obtain ⟨headsToo, bound⟩ := one.heading heads
        rw [List.length_singleton] at bound
        obtain ⟨schedule, last, outcomes, runs, returned⟩ := ih _ (by omega) headsToo rfl
        exact ⟨_, last, outcomes, .step before after turn runs, returned⟩

-----------------------------------------------------------------------------------------
-- One worker after the other
-----------------------------------------------------------------------------------------

/-- Schedules are put together. -/
theorem Runs.append {crew middle last : Crew σ α β} {schedule more : List Nat}
    (front : crew.Runs schedule middle) (back : middle.Runs more last)
    : crew.Runs (schedule ++ more) last := by
  induction front with
  | nil => exact back
  | step before after turn _ ih => exact .step before after turn (ih back)

/-- A worker that takes all its steps at once does what its task does. By induction on the items
that are waiting.
-/
theorem runs_alone (before after : List (ShardWorker σ α β)) (handle : α → StateM σ (ItemOutcome β))
    (waiting : List α) (outputs : List β) (finished : Nat) (state : σ)
    : let rest := Task.ofItems handle waiting state
      ∃ schedule,
        Runs { workers := before ++ .busy handle waiting outputs finished :: after, state }
          schedule
          {
            workers :=
              before
                ++ .returned
                    {
                      outputs := outputs ++ rest.1.outputs
                      finished := finished + rest.1.finished
                      stop := rest.1.stop
                    }
                  :: after
            state := rest.2
          } := by
  induction waiting generalizing outputs finished state with
  | nil =>
      have same : outputs ++ (Task.ofItems handle [] state).1.outputs = outputs :=
        List.append_nil outputs
      refine ⟨[before.length], ?_⟩
      rw [same]
      exact .step before after .finish (.nil _)
  | cons item rest ih =>
      rcases ran : handle item state with ⟨own, later⟩
      cases stopped : own.stop with
      | some reason =>
          rw [Task.ofItems_stop rest ran stopped]
          exact ⟨[before.length], .step before after (.stop ran stopped) (.nil _)⟩
      | none =>
          obtain ⟨schedule, runs⟩ := ih (outputs ++ own.outputs) (finished + 1) later
          rw [Task.ofItems_next rest ran stopped]
          rw [List.append_assoc, Nat.add_right_comm, Nat.add_assoc] at runs
          exact ⟨_, .step before after (.next ran stopped) runs⟩

/-- Workers that take their turns one after the other do what their tasks do, and those without
items are passed over. By induction on the shares.
-/
theorem runs_shares (before : List (ShardWorker σ α β))
    (shares : List ((α → StateM σ (ItemOutcome β)) × List α)) (state : σ)
    : let ran :=
        Execution.runShards (shares.map fun share => (Task.ofItems share.1, share.2)) state
      ∃ schedule,
        Runs
          {
            workers :=
              before
                ++ (shares.filter (!·.2.isEmpty)).map fun share => .busy share.1 share.2 [] 0
            state
          }
          schedule
          { workers := before ++ ran.1.map .returned, state := ran.2 } := by
  induction shares generalizing before state with
  | nil => exact ⟨[], .nil _⟩
  | cons share rest ih =>
      obtain ⟨handle, items⟩ := share
      by_cases empty : items = []
      · subst empty
        exact ih before state
      · have filled : (!items.isEmpty) = true := by simpa using empty
        rw [List.map_cons, Execution.runShards_cons _ empty, List.filter_cons, if_pos filled,
          List.map_cons]
        obtain ⟨schedule, first⟩ := runs_alone before
          ((rest.filter (!·.2.isEmpty)).map fun share => .busy share.1 share.2 [] 0) handle items
          [] 0 state
        obtain ⟨more, others⟩ := ih
          (before ++ [.returned (Task.ofItems handle items state).1])
          (Task.ofItems handle items state).2
        rw [List.nil_append, Nat.zero_add] at first
        rw [List.append_assoc, List.append_assoc] at others
        exact ⟨_, first.append others⟩

/-- Sharing items is one way in which the crew may run: the workers take their turns in the order of
their shards.
-/
theorem execute_runs {handlers : List (α → StateM σ (ItemOutcome β))} (staffed : handlers ≠ [])
    {items : List α} (filled : items ≠ []) (state : σ)
    : let ran := execute (handlers.map Task.ofItems) items state
      ∃ schedule outcomes,
        (start handlers items state).Runs schedule
            { workers := outcomes.map .returned, state := ran.2 }
        ∧ ran.1 = Execution.join outcomes := by
  have staffedToo : handlers.map Task.ofItems ≠ [] := by simpa using staffed
  have shares : (handlers.map Task.ofItems).zip
        ((shards items.length handlers.length).map (·.slice items))
      = (sharesOf handlers items).map fun share => (Task.ofItems share.1, share.2) := by
    rw [List.zip_map_left]
    rfl
  rw [execute_apply staffedToo filled, List.length_map]
  dsimp only
  rw [shares]
  obtain ⟨schedule, runs⟩ := runs_shares [] (sharesOf handlers items) state
  exact ⟨schedule, _, runs, rfl⟩

end Crew

-----------------------------------------------------------------------------------------
-- Sharing items
-----------------------------------------------------------------------------------------

/-- The merged outcomes of workers are one pass over their shards put together, in which shards
without items do not count. By induction on the shards.
-/
theorem Execution.merge_passes (parts : List (List α))
    : merge ((parts.filter (!·.isEmpty)).map (pass outcomeOf))
      = sequentially (fun item => (outcomeOf item).answer) parts.flatten := by
  induction parts with
  | nil => rfl
  | cons part rest ih =>
      by_cases empty : part = []
      · subst empty
        exact ih
      · have filled : (!part.isEmpty) = true := by simpa using empty
        rw [List.filter_cons, if_pos filled, List.map_cons, merge_cons, answer_pass, ih,
          List.flatten_cons, sequentially_append]
        cases sequentially (fun item => (outcomeOf item).answer) part <;> rfl

section

variable {handlers : List (α → StateM σ (ItemOutcome β))}

theorem map_snd_sharesOf (handlers : List (α → StateM σ (ItemOutcome β))) (items : List α)
    : (sharesOf handlers items).map (·.2)
      = (shards items.length handlers.length).map (·.slice items) :=
  List.map_snd_zip (by simp [shards])

theorem independent_of_sharesOf
    (independent : ∀ handle ∈ handlers, ∀ item state, (handle item state).1 = outcomeOf item)
    (items : List α)
    : ∀ share ∈ sharesOf handlers items, ∀ item state, (share.1 item state).1 = outcomeOf item :=
  fun share member => independent share.1 (List.of_mem_zip member).1

theorem flatten_sharesOf (staffed : handlers ≠ []) (items : List α)
    : ((sharesOf handlers items).map (·.2)).flatten = items := by
  rw [map_snd_sharesOf]
  exact flatten_slices_shards items (List.length_pos_iff.mpr staffed)

/-- The joined outcomes of the shards are one pass over all items. -/
theorem join_sharesOf (staffed : handlers ≠ []) (items : List α)
    : (Execution.join
          (((sharesOf handlers items).filter (!·.2.isEmpty)).map (pass outcomeOf ·.2))).outputs
      = sequentially (fun item => (outcomeOf item).answer) items := by
  rw [← flatten_sharesOf staffed items, ← Execution.merge_passes, List.filter_map, List.map_map,
    flatten_sharesOf staffed]
  rfl

namespace Crew

/-- A crew that starts is heading for what its shards come to. -/
theorem start_heading
    (independent : ∀ handle ∈ handlers, ∀ item state, (handle item state).1 = outcomeOf item)
    (items : List α) (state : σ)
    : (start handlers items state).Heading outcomeOf
        (((sharesOf handlers items).filter (!·.2.isEmpty)).map (pass outcomeOf ·.2)) := by
  refine ⟨fun worker member => ?_, ?_⟩
  · obtain ⟨share, inside, rfl⟩ := List.mem_map.mp member
    exact independent_of_sharesOf independent items share (List.mem_filter.mp inside).1
  · simp [start, ShardWorker.outlook, Function.comp_def]

/-- A crew that starts has a step for every item, and one more for every worker. -/
theorem remaining_start (staffed : handlers ≠ []) (items : List α) (state : σ)
    : (start handlers items state).remaining ≤ items.length + handlers.length := by
  have bound (shares : List ((α → StateM σ (ItemOutcome β)) × List α))
      : ((shares.filter (!·.2.isEmpty)).map (·.2.length + 1)).sum
        ≤ (shares.map (·.2)).flatten.length + shares.length := by
    induction shares with
    | nil => exact Nat.zero_le _
    | cons share rest ih =>
        simp only [List.filter_cons, List.map_cons, List.flatten_cons, List.length_append,
          List.length_cons]
        split
        · rw [List.map_cons, List.sum_cons]
          omega
        · omega
  have size : (sharesOf handlers items).length = handlers.length := by
    simp [sharesOf, shards]
  have all := bound (sharesOf handlers items)
  rw [flatten_sharesOf staffed, size] at all
  simpa [remaining, start, ShardWorker.remaining, Function.comp_def] using all

/-- The answer of workers does not depend on the order in which they take their steps and return. A
crew that is started takes a bounded number of steps and comes to its end wherever it is. In the end
its joined outcomes are those of workers that run one after the other, and the outputs are those of
one sequential pass: the outputs of all items in order, or the error of the first item that fails,
even if a later one failed before it.
-/
theorem join_of_runs (handlers : List (α → StateM σ (ItemOutcome β)))
    (outcomeOf : α → ItemOutcome β)
    (independent : ∀ handle ∈ handlers, ∀ item state, (handle item state).1 = outcomeOf item)
    (staffed : handlers ≠ []) {items : List α} (filled : items ≠ []) (state : σ)
    {schedule : List Nat} {crew : Crew σ α β}
    (runs : (start handlers items state).Runs schedule crew)
    : schedule.length ≤ items.length + handlers.length
      ∧ (∃ more last outcomes, crew.Runs more last ∧ last.Returned outcomes)
      ∧ ∀ outcomes,
          crew.Returned outcomes
          → Execution.join outcomes = (execute (handlers.map Task.ofItems) items state).1
            ∧ (Execution.join outcomes).outputs
              = sequentially (fun item => (outcomeOf item).answer) items := by
  have heading := start_heading independent items state
  obtain ⟨heads, bound⟩ := runs.heading heading
  have most := remaining_start staffed items state
  refine ⟨by omega, heads.exists_end, fun outcomes returned => ?_⟩
  obtain ⟨_, others, inOrder, joined⟩ := execute_runs staffed filled state
  rw [joined, (inOrder.heading heading).1.eq_of_returned rfl, heads.eq_of_returned returned]
  exact ⟨rfl, join_sharesOf staffed items⟩

/-- The second of two workers panics before the first one has looked at any item, and the first one
fails in the end. What counts is the error of the first.
-/
theorem late_join_of_runs
    : let outcomeOf (item : Nat) : ItemOutcome Nat :=
        match item with
        | 2 => { stop := some (.failed (.unresolvedMutant "mutant" "point")) }
        | 4 => { stop := some (.panicked (.text "four")) }
        | _ => { outputs := [item, 10 * item] }
      let handle (item : Nat) : StateM (List Nat) (ItemOutcome Nat) := fun seen =>
        (outcomeOf item, seen ++ [item])
      let outcomes : List (TaskOutcome Nat) :=
        [
          {
            outputs := [1, 10]
            finished := 1
            stop := some (.failed (.unresolvedMutant "mutant" "point"))
          },
          { stop := some (.panicked (.text "four")) }
        ]
      let crew : Crew (List Nat) Nat Nat :=
        { workers := outcomes.map .returned, state := [4, 1, 2] }
      (start [handle, handle] [1, 2, 3, 4, 5] []).Runs [1, 0, 0] crew
      ∧ crew.Returned outcomes
      ∧ Execution.join outcomes
        = (execute ([handle, handle].map Task.ofItems) [1, 2, 3, 4, 5] []).1
      ∧ (Execution.join outcomes).outputs = .error (.unresolvedMutant "mutant" "point") := by
  intro outcomeOf handle outcomes crew
  have independent
      : ∀ other ∈ [handle, handle], ∀ item state, (other item state).1 = outcomeOf item := by
    simp [handle]
  have runs : (start [handle, handle] [1, 2, 3, 4, 5] []).Runs [1, 0, 0] crew := by
    have ran (item : Nat) (seen : List Nat) : handle item seen = (outcomeOf item, seen ++ [item]) :=
      rfl
    have late : ShardWorker.Step (.busy handle [4, 5] [] 0) [] (.returned outcomes[1]) [4] :=
      .stop (ran 4 []) rfl
    have first : ShardWorker.Step (.busy handle [1, 2, 3] [] 0) [4]
        (.busy handle [2, 3] [1, 10] 1) [4, 1] :=
      .next (ran 1 [4]) rfl
    have second : ShardWorker.Step (.busy handle [2, 3] [1, 10] 1) [4, 1] (.returned outcomes[0])
        [4, 1, 2] :=
      .stop (ran 2 [4, 1]) rfl
    have parts : (shards 5 2).map (·.slice [1, 2, 3, 4, 5]) = [[1, 2, 3], [4, 5]] := by decide
    have starts : start [handle, handle] [1, 2, 3, 4, 5] []
        = { workers := [.busy handle [1, 2, 3] [] 0, .busy handle [4, 5] [] 0], state := [] } := by
      simp [start, sharesOf, parts]
    rw [starts]
    exact .step [_] [] late (.step [] [_] first (.step [] [_] second (.nil _)))
  obtain ⟨-, -, joined⟩ := join_of_runs [handle, handle] outcomeOf independent
    (List.cons_ne_nil _ _) (List.cons_ne_nil _ _) [] runs
  obtain ⟨same, passed⟩ := joined outcomes rfl
  exact ⟨runs, rfl, same, passed⟩

end Crew

end

end

end MutationTesting
