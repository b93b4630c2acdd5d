import Mathlib.Data.List.Forall2
import MutationTesting.Proofs.Scheduling.SequentialPass

/-! The outputs of a run are blocks, one for every item in order, however the items are shared
among workers. What is said about the block of an item is a parameter.
-/

namespace MutationTesting

variable {block : α → List β → Prop}

/-- Lists of results that agree one by one agree in their parts. -/
theorem forall₂_split {related : α → β → Prop} {left more : List α} {right others : List β}
    (all : List.Forall₂ related (left ++ more) (right ++ others))
    (same : left.length = right.length)
    : List.Forall₂ related left right ∧ List.Forall₂ related more others := by
  have front := List.forall₂_take left.length all
  have back := List.forall₂_drop left.length all
  rw [List.take_left, same, List.take_left] at front
  rw [List.drop_left, same, List.drop_left] at back
  exact ⟨front, back⟩

/-- What is related to the same items one by one is related through them. -/
theorem forall₂_join {related : α → β → Prop} {relatedToo : α → γ → Prop} {items : List α}
    {left : List β} {right : List γ} (all : List.Forall₂ related items left)
    (allToo : List.Forall₂ relatedToo items right)
    : List.Forall₂ (fun one other => ∃ item, related item one ∧ relatedToo item other) left right
    := by
  induction all generalizing right with
  | nil =>
      cases allToo
      exact .nil
  | cons own _ ih =>
      cases allToo with
      | cons ownToo others => exact .cons ⟨_, own, ownToo⟩ (ih others)

/-- The outputs are made of one block for every item, in the order of the items. -/
def InBlocks (block : α → List β → Prop) (items : List α) (outputs : List β) : Prop :=
  ∃ blocks, List.Forall₂ block items blocks ∧ outputs = blocks.flatten

theorem InBlocks.nil : InBlocks block [] [] := ⟨[], .nil, rfl⟩

theorem InBlocks.of_nil {outputs : List β} (blocks : InBlocks block [] outputs)
    : outputs = [] := by
  obtain ⟨_, fitting, rfl⟩ := blocks
  cases fitting
  rfl

theorem InBlocks.cons {item : α} {items : List α} {first rest : List β}
    (fits : block item first) (others : InBlocks block items rest)
    : InBlocks block (item :: items) (first ++ rest) := by
  obtain ⟨blocks, fitting, rfl⟩ := others
  exact ⟨first :: blocks, .cons fits fitting, rfl⟩

theorem InBlocks.uncons {item : α} {items : List α} {outputs : List β}
    (blocks : InBlocks block (item :: items) outputs)
    : ∃ first rest, outputs = first ++ rest ∧ block item first ∧ InBlocks block items rest := by
  obtain ⟨_, fitting, rfl⟩ := blocks
  cases fitting with
  | cons fits others => exact ⟨_, _, rfl, fits, _, others, rfl⟩

theorem InBlocks.append {left right : List α} {first second : List β}
    (front : InBlocks block left first) (back : InBlocks block right second)
    : InBlocks block (left ++ right) (first ++ second) := by
  obtain ⟨blocks, fitting, rfl⟩ := front
  obtain ⟨others, fittingToo, rfl⟩ := back
  exact ⟨blocks ++ others, List.rel_append fitting fittingToo, by simp⟩

/-- What is seen of the blocks in a view is seen of all outputs, in the order of the items. -/
theorem InBlocks.map_eq_flatMap {view : β → γ} {contribution : α → List γ}
    (fits : ∀ item outputs, block item outputs → outputs.map view = contribution item)
    {items : List α} {outputs : List β} (blocks : InBlocks block items outputs)
    : outputs.map view = items.flatMap contribution := by
  induction items generalizing outputs with
  | nil => rw [blocks.of_nil]; rfl
  | cons item rest ih =>
      obtain ⟨first, others, rfl, own, following⟩ := blocks.uncons
      rw [List.map_append, fits item first own, ih following, List.flatMap_cons]

/-- Blocks that are given by their items leave no choice. -/
theorem InBlocks.eq_flatMap {contribution : α → List β} {items : List α} {outputs : List β}
    (blocks : InBlocks (fun item outputs => outputs = contribution item) items outputs)
    : outputs = items.flatMap contribution := by
  have seen : outputs.map id = items.flatMap contribution :=
    blocks.map_eq_flatMap fun _ _ own => own ▸ List.map_id _
  rwa [List.map_id] at seen

-----------------------------------------------------------------------------------------
-- Tasks
-----------------------------------------------------------------------------------------

/-- Whenever a task reaches the end of some items from a valid state, its outputs are one block
for each; and it always leaves a valid state.
-/
structure TaskBlocks (valid : σ → Prop) (block : α → List β → Prop) (task : Task σ α β)
    : Prop where
  keeps : ∀ items state, valid state → valid (task items state).2
  blocks
    : ∀ items state,
        valid state
        → (task items state).1.stop = none
        → InBlocks block items (task items state).1.outputs

/-- Taking items one after the other leaves a block for each, by induction on the items. -/
theorem TaskBlocks.ofItems {valid : σ → Prop} {item : α → StateM σ (ItemOutcome β)}
    (kept : ∀ input state, valid state → valid (item input state).2)
    (fits
      : ∀ input state,
          valid state
          → (item input state).1.stop = none
          → block input (item input state).1.outputs)
    : TaskBlocks valid block (Task.ofItems item) where
  keeps items state start :=
    Task.ofItems_invariant valid (fun input _ state => kept input state) start
  blocks items := by
    induction items with
    | nil => exact fun _ _ _ => .nil
    | cons first rest ih =>
        intro state start finished
        have after := kept first state start
        have own := fits first state start
        rcases ran : item first state with ⟨outcome, next⟩
        rw [ran] at after own
        cases stopped : outcome.stop with
        | some stop =>
            rw [Task.ofItems_stop rest ran stopped] at finished
            simp at finished
        | none =>
            rw [Task.ofItems_next rest ran stopped] at finished ⊢
            exact .cons (own stopped) (ih next after finished)

/-- A task over items none of which stops it reaches their end. -/
theorem Task.ofItems_finishes (valid : σ → Prop) {item : α → StateM σ (ItemOutcome β)}
    (kept : ∀ input state, valid state → valid (item input state).2) {items : List α}
    (goesOn : ∀ input ∈ items, ∀ state, valid state → (item input state).1.stop = none)
    (state : σ) (start : valid state)
    : (Task.ofItems item items state).1.stop = none := by
  induction items generalizing state with
  | nil => rfl
  | cons first rest ih =>
      have after := kept first state start
      have own := goesOn first List.mem_cons_self state start
      rcases ran : item first state with ⟨outcome, next⟩
      rw [ran] at after own
      rw [Task.ofItems_next rest ran own]
      exact ih (fun input member => goesOn input (List.mem_cons_of_mem first member)) next after

-----------------------------------------------------------------------------------------
-- Workers
-----------------------------------------------------------------------------------------

namespace Execution

/-- What workers leave in blocks is in blocks when it is merged. -/
theorem merge_blocks {valid : σ → Prop} {task : Task σ α β}
    (leaves : TaskBlocks valid block task) (parts : List (List α)) (state : σ)
    (start : valid state) {outputs : List β}
    (merged : merge (runShards (parts.map (task, ·)) state).1 = .ok outputs)
    : InBlocks block parts.flatten outputs := by
  induction parts generalizing state outputs with
  | nil =>
      cases merged
      exact .nil
  | cons part rest ih =>
      by_cases empty : part = []
      · subst empty
        exact ih state start merged
      · have first := leaves.blocks part state start
        rw [List.map_cons, runShards_cons task empty, merge_cons, TaskOutcome.answer] at merged
        cases stopped : (task part state).1.stop with
        | some stop => simp [stopped] at merged
        | none =>
            cases others : merge (runShards (rest.map (task, ·)) (task part state).2).1 with
            | error error => simp [stopped, others, Except.map] at merged
            | ok following =>
                have joined : (task part state).1.outputs ++ following = outputs := by
                  simpa [stopped, others, Except.map] using merged
                rw [List.flatten_cons, ← joined]
                exact .append (first stopped) (ih _ (leaves.keeps part state start) others)

/-- Workers that all reach the end of their items succeed. -/
theorem merge_finishes {valid : σ → Prop} {task : Task σ α β}
    (kept : ∀ items state, valid state → valid (task items state).2) {parts : List (List α)}
    (finish : ∀ part ∈ parts, ∀ state, valid state → (task part state).1.stop = none) (state : σ)
    (start : valid state)
    : ∃ outputs, merge (runShards (parts.map (task, ·)) state).1 = .ok outputs := by
  induction parts generalizing state with
  | nil => exact ⟨[], rfl⟩
  | cons part rest ih =>
      have others := ih fun part member => finish part (List.mem_cons_of_mem _ member)
      by_cases empty : part = []
      · subst empty
        exact others state start
      · obtain ⟨following, merged⟩ := others _ (kept part state start)
        have finished := finish part List.mem_cons_self state start
        refine ⟨(task part state).1.outputs ++ following, ?_⟩
        rw [List.map_cons, runShards_cons task empty, merge_cons, TaskOutcome.answer, finished]
        simp [merged, Except.map]

end Execution

/-- A run that succeeds leaves a block for every item, in the order of the items. -/
theorem execute_blocks {valid : σ → Prop} {task : Task σ α β}
    (leaves : TaskBlocks valid block task) {workers : Nat} (items : List α) (state : σ)
    (start : valid state) {outputs : List β}
    (succeeded : (execute (List.replicate workers task) items state).1.outputs = .ok outputs)
    : InBlocks block items outputs := by
  rcases Nat.eq_zero_or_pos workers with rfl | pos
  · -- Without workers only a run over nothing succeeds.
    cases items with
    | nil =>
        cases succeeded
        exact .nil
    | cons => cases succeeded
  · obtain ⟨parts, rfl, merged, -⟩ := execute_parts task pos items state
    exact Execution.merge_blocks leaves parts state start (merged ▸ succeeded)

/-- A run succeeds when no item stops its task. -/
theorem execute_finishes {valid : σ → Prop} {task : Task σ α β}
    (kept : ∀ items state, valid state → valid (task items state).2) {workers : Nat}
    (pos : 0 < workers) {items : List α}
    (finish
      : ∀ part, part ⊆ items → ∀ state, valid state → (task part state).1.stop = none)
    (state : σ) (start : valid state)
    : ∃ outputs, (execute (List.replicate workers task) items state).1.outputs = .ok outputs := by
  obtain ⟨parts, rfl, merged, -⟩ := execute_parts task pos items state
  rw [merged]
  exact Execution.merge_finishes kept
    (fun part member => finish part fun item => List.mem_flatten_of_mem member) state start

end MutationTesting
