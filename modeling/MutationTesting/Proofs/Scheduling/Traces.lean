import MutationTesting.Proofs.Scheduling.Blocks

/-! What is noted while items are shared among workers. Every item that is looked at leaves one
note. Up to the first item that fails the notes are those of all items in order, whatever the
number of workers; behind it they come from some of the later items, since the workers after
the one that failed run all the same.
-/

namespace MutationTesting

variable {spec : α → ν → Except TaskError (List β) → Prop}

/-- A note may have been left by one of the items. -/
def NotedFor (spec : α → ν → Except TaskError (List β) → Prop) (items : List α) (note : ν) : Prop :=
  ∃ item ∈ items, ∃ answer, spec item note answer

/-- The notes that items leave, and the answer of all of them: the outputs of each in order, or the
error of the first that fails.
-/
inductive Trace (spec : α → ν → Except TaskError (List β) → Prop)
    : List α → List ν → Except TaskError (List β) → Prop
  | nil : Trace spec [] [] (.ok [])
  | next {item : α} {items : List α} {note : ν} {notes : List ν} {outputs : List β}
      {answer : Except TaskError (List β)} (own : spec item note (.ok outputs))
      (others : Trace spec items notes answer)
      : Trace spec (item :: items) (note :: notes) (answer.map (outputs ++ ·))
  | stop {item : α} {items : List α} {note : ν} {notes : List ν} {error : TaskError}
      (own : spec item note (.error error)) (others : ∀ note ∈ notes, NotedFor spec items note)
      : Trace spec (item :: items) (note :: notes) (.error error)

theorem NotedFor.mono {items more : List α} {note : ν} (noted : NotedFor spec items note)
    (inside : items ⊆ more)
    : NotedFor spec more note := by
  obtain ⟨item, member, answer, own⟩ := noted
  exact ⟨item, inside member, answer, own⟩

namespace Trace

/-- Every note was left by one of the items, by induction on the trace. -/
theorem notedFor {items : List α} {notes : List ν} {answer : Except TaskError (List β)}
    (trace : Trace spec items notes answer)
    : ∀ note ∈ notes, NotedFor spec items note := by
  induction trace with
  | nil => simp
  | next own _ ih =>
      intro note member
      rcases List.mem_cons.mp member with rfl | later
      · exact ⟨_, List.mem_cons_self, _, own⟩
      · exact (ih note later).mono (List.subset_cons_self _ _)
  | stop own others =>
      intro note member
      rcases List.mem_cons.mp member with rfl | later
      · exact ⟨_, List.mem_cons_self, _, own⟩
      · exact (others note later).mono (List.subset_cons_self _ _)

/-- Traces are put together like the items that they belong to. -/
theorem append {left right : List α} {notes more : List ν}
    {answer others : Except TaskError (List β)} (front : Trace spec left notes answer)
    (back : Trace spec right more others)
    : Trace spec (left ++ right) (notes ++ more)
        (answer.bind fun outputs => others.map (outputs ++ ·)) := by
  induction front with
  | nil => cases others <;> exact back
  | @next item items note notes outputs answer own _ ih =>
      cases answer with
      | error error => exact .next own ih
      | ok following =>
          have joined := Trace.next own ih
          cases others <;> simpa [Except.map, Except.bind] using joined
  | @stop item items note notes error own others =>
      refine .stop own fun note member => ?_
      rcases List.mem_append.mp member with early | late
      · exact (others note early).mono (List.subset_append_left _ _)
      · exact (back.notedFor note late).mono (List.subset_append_right _ _)

/-- A trace without an error has one entry for every item: its note and its block of the outputs. -/
theorem entries_of_ok {items : List α} {notes : List ν} {outputs : List β}
    (trace : Trace spec items notes (.ok outputs))
    : ∃ entries : List (ν × List β),
        entries.map Prod.fst = notes
        ∧ entries.flatMap Prod.snd = outputs
        ∧ List.Forall₂ (fun item entry => spec item entry.1 (.ok entry.2)) items entries := by
  generalize answered : (Except.ok outputs : Except TaskError (List β)) = answer at trace
  induction trace generalizing outputs with
  | nil =>
      cases answered
      exact ⟨[], rfl, rfl, .nil⟩
  | @next item items note notes first answer own _ ih =>
      cases answer with
      | error error => cases answered
      | ok rest =>
          obtain rfl : outputs = first ++ rest := by simpa [Except.map] using answered
          obtain ⟨entries, rfl, rfl, fitting⟩ := ih rfl
          exact ⟨(note, first) :: entries, rfl, rfl, .cons own fitting⟩
  | stop => cases answered

/-- A trace without an error has a note for every item, and its outputs are in blocks. -/
theorem of_ok {items : List α} {notes : List ν} {outputs : List β}
    (trace : Trace spec items notes (.ok outputs))
    : List.Forall₂ (fun item note => ∃ block, spec item note (.ok block)) items notes
      ∧ InBlocks (fun item block => ∃ note, spec item note (.ok block)) items outputs := by
  obtain ⟨entries, rfl, rfl, fitting⟩ := trace.entries_of_ok
  refine ⟨?_, entries.map Prod.snd, ?_, List.flatMap_def⟩
  · exact List.forall₂_map_right_iff.mpr (fitting.imp fun _ entry own => ⟨entry.2, own⟩)
  · exact List.forall₂_map_right_iff.mpr (fitting.imp fun _ entry own => ⟨entry.1, own⟩)

/-- A trace with an error has a first item that fails, in front of which all items succeed. -/
theorem of_error {items : List α} {notes : List ν} {error : TaskError}
    (trace : Trace spec items notes (.error error))
    : ∃ before item after earlier note later outputs,
        items = before ++ item :: after
        ∧ notes = earlier ++ note :: later
        ∧ Trace spec before earlier (.ok outputs)
        ∧ spec item note (.error error) := by
  generalize answered : (Except.error error : Except TaskError (List β)) = answer at trace
  induction trace with
  | nil => cases answered
  | @next item items note notes outputs answer own _ ih =>
      cases answer with
      | ok following => cases answered
      | error other =>
          obtain rfl : error = other := by simpa [Except.map] using answered
          obtain ⟨before, failed, after, earlier, last, later, following, rfl, rfl, front, stops⟩ :=
            ih rfl
          exact ⟨item :: before, failed, after, note :: earlier, last, later, outputs ++ following,
            rfl, rfl, .next own front, stops⟩
  | @stop item items note notes other own _ =>
      cases answered
      exact ⟨[], item, items, [], note, notes, [], rfl, rfl, .nil, own⟩

end Trace

-----------------------------------------------------------------------------------------
-- Tasks and workers
-----------------------------------------------------------------------------------------

/-- In every valid state an item adds one note to the log and leaves a valid state. -/
def NotesItem (valid : σ → Prop) (log : σ → List ν)
    (spec : α → ν → Except TaskError (List β) → Prop) (item : α → StateM σ (ItemOutcome β))
    : Prop :=
  ∀ input state,
    valid state
    → valid (item input state).2
      ∧ ∃ note,
          log (item input state).2 = log state ++ [note]
          ∧ spec input note (item input state).1.answer

/-- A task adds notes to the log that fit its answer. -/
def NotesTask (log : σ → List ν) (spec : α → ν → Except TaskError (List β) → Prop)
    (task : Task σ α β)
    : Prop :=
  ∀ items state, items ≠ [] → ∃ notes,
    log (task items state).2 = log state ++ notes
    ∧ Trace spec items notes (task items state).1.answer

/-- Items that are taken one after the other leave their notes in order. -/
theorem NotesItem.ofItems {valid : σ → Prop} {log : σ → List ν}
    {item : α → StateM σ (ItemOutcome β)} (leaves : NotesItem valid log spec item)
    (items : List α) (state : σ) (start : valid state)
    : ∃ notes,
        log (Task.ofItems item items state).2 = log state ++ notes
        ∧ Trace spec items notes (Task.ofItems item items state).1.answer := by
  induction items generalizing state with
  | nil => exact ⟨[], (List.append_nil _).symm, .nil⟩
  | cons first rest ih =>
      obtain ⟨kept, note, noted, own⟩ := leaves first state start
      rcases ran : item first state with ⟨outcome, after⟩
      rw [ran] at kept noted own
      cases stopped : outcome.stop with
      | some stop =>
          simp only [ItemOutcome.answer, stopped] at own
          rw [Task.ofItems_stop rest ran stopped]
          exact ⟨[note], noted, .stop own (by simp)⟩
      | none =>
          obtain ⟨notes, following, others⟩ := ih after kept
          simp only [ItemOutcome.answer, stopped] at own
          rw [Task.ofItems_next rest ran stopped]
          refine ⟨note :: notes, by rw [following, noted, List.append_assoc]; rfl, ?_⟩
          have joined := Trace.next own others
          simp only [TaskOutcome.answer] at joined ⊢
          cases finished : (Task.ofItems item rest after).1.stop <;>
            simpa [finished, Except.map] using joined

namespace Execution

/-- The notes of workers are a trace of their shards put together, by induction on the shards. -/
theorem runShards_trace {log : σ → List ν} {task : Task σ α β}
    (leaves : NotesTask log spec task) (parts : List (List α)) (state : σ)
    : ∃ notes,
        log (runShards (parts.map (task, ·)) state).2 = log state ++ notes
        ∧ Trace spec parts.flatten notes (merge (runShards (parts.map (task, ·)) state).1) := by
  induction parts generalizing state with
  | nil => exact ⟨[], (List.append_nil _).symm, .nil⟩
  | cons part rest ih =>
      by_cases empty : part = []
      · subst empty
        exact ih state
      · obtain ⟨notes, noted, own⟩ := leaves part state empty
        obtain ⟨more, following, others⟩ := ih (task part state).2
        rw [List.map_cons, runShards_cons task empty, List.flatten_cons]
        refine ⟨notes ++ more, by rw [following, noted, List.append_assoc], ?_⟩
        have joined := own.append others
        rw [merge_cons]
        cases answered : (task part state).1.answer <;> simpa [answered, Except.bind] using joined

end Execution

/-- Sharing items among workers leaves notes for them as if they were taken one after the other, up
to the first that fails.
-/
theorem execute_trace {log : σ → List ν} {task : Task σ α β} (leaves : NotesTask log spec task)
    {workers : Nat} (pos : 0 < workers) (items : List α) (state : σ)
    : ∃ notes,
        log (execute (List.replicate workers task) items state).2 = log state ++ notes
        ∧ Trace spec items notes (execute (List.replicate workers task) items state).1.outputs := by
  obtain ⟨parts, all, merged, after⟩ := execute_parts task pos items state
  rw [merged, after, ← all]
  exact Execution.runShards_trace leaves parts state

-----------------------------------------------------------------------------------------
-- Tasks that only differ in what is noted
-----------------------------------------------------------------------------------------

/-- Workers that do the same in a view of their state do the same one after the other. -/
theorem Execution.runShards_view {task : Task σ α β} {other : Task τ α β} (view : τ → σ)
    (same
      : ∀ items state,
          task items (view state) = ((other items state).1, view (other items state).2))
    (workers : Nat) (parts : List (List α)) (state : τ)
    : runShards ((List.replicate workers task).zip parts) (view state)
      = let ran := runShards ((List.replicate workers other).zip parts) state
        (ran.1, view ran.2) := by
  induction parts generalizing workers state with
  | nil => simp only [List.zip_nil_right]; rfl
  | cons part rest ih =>
      cases workers with
      | zero => rfl
      | succ workers =>
          simp only [List.replicate_succ, List.zip_cons_cons]
          by_cases empty : part = []
          · subst empty
            exact ih workers state
          · rw [runShards_cons task empty, runShards_cons other empty, same]
            simp only [ih]

/-- Sharing items among workers comes to the same in a view of the state. -/
theorem execute_view {task : Task σ α β} {other : Task τ α β} (view : τ → σ)
    (same
      : ∀ items state,
          task items (view state) = ((other items state).1, view (other items state).2))
    (workers : Nat) (items : List α) (state : τ)
    : execute (List.replicate workers task) items (view state)
      = let ran := execute (List.replicate workers other) items state
        (ran.1, view ran.2) := by
  by_cases filled : items = []
  · subst filled
    rfl
  · cases workers with
    | zero => simp only [execute, List.isEmpty_eq_false_iff.mpr filled]; rfl
    | succ workers =>
        have staffed : List.replicate (workers + 1) task ≠ [] := List.cons_ne_nil task _
        have staffedToo : List.replicate (workers + 1) other ≠ [] := List.cons_ne_nil other _
        rw [execute_apply staffed filled, execute_apply staffedToo filled]
        simp only [List.length_replicate, Execution.runShards_view view same]

end MutationTesting
