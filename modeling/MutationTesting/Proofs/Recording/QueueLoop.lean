import Mathlib.Data.List.Flatten
import MutationTesting.Proofs.Recording.LevelOrder
import MutationTesting.Recording.CallTree

/-! Loops that empty a queue come to their end where no item is met in two ways: such a loop handles
what a walk level by level comes to, each item once, and a larger budget changes nothing. The walk
itself goes through the generations of its start, one after the other.
-/

namespace MutationTesting

variable {expand : α → List α} {all : List α}

-----------------------------------------------------------------------------------------
-- Loops that end
-----------------------------------------------------------------------------------------

section

variable {handle : α → σ → Option (List α × σ)} {holds : List α → List α → σ → Prop}
  {stuck : Prop}

theorem drain_nil (budget : Nat) (state : σ) : drain handle budget [] state = some ([], state) := by
  cases budget <;> rfl

theorem drain_cons {item : α} {queue more : List α} {state after : σ}
    (next : handle item state = some (more, after)) (budget : Nat)
    : drain handle (budget + 1) (item :: queue) state
      = (drain handle budget (queue ++ more) after).map fun last => (item :: last.1, last.2) := by
  rw [drain, next]
  change (drain handle budget (queue ++ more) after).bind
      (fun last => some (item :: last.1, last.2)) = _
  cases drain handle budget (queue ++ more) after <;> rfl

theorem drain_stuck {item : α} {state : σ} (stops : handle item state = none) (budget : Nat)
    (queue : List α)
    : drain handle (budget + 1) (item :: queue) state = none := by
  rw [drain, stops]
  rfl

/-- A loop that ends comes to the same with a larger budget, by induction on the budget. -/
theorem drain_of_le {budget larger : Nat} {queue : List α} {state : σ} {last : List α × σ}
    (ends : drain handle budget queue state = some last) (more : budget ≤ larger)
    : drain handle larger queue state = some last := by
  induction budget generalizing larger queue state last with
  | zero =>
      cases queue with
      | nil => rwa [drain_nil] at ends ⊢
      | cons item queue => cases ends
  | succ budget ih =>
      cases queue with
      | nil => rwa [drain_nil] at ends ⊢
      | cons item queue =>
          obtain ⟨larger, rfl⟩ : ∃ fewer, larger = fewer + 1 := ⟨larger - 1, by omega⟩
          cases next : handle item state with
          | none =>
              rw [drain_stuck next] at ends
              cases ends
          | some result =>
              rw [drain_cons next] at ends ⊢
              obtain ⟨rest, others, rfl⟩ := Option.map_eq_some_iff.mp ends
              rw [ih others (Nat.le_of_succ_le_succ more)]
              rfl

/-- A loop handles items as a walk does: as long as its state fits what was handled and what is
queued, handling the next item leads on to the same items as the walk, with a state that fits again.
It may get stuck at an item for one reason only.
-/
def HandlesAlong (expand : α → List α) (all : List α) (handle : α → σ → Option (List α × σ))
    (holds : List α → List α → σ → Prop) (stuck : Prop)
    : Prop :=
  ∀ handled item queue budget state,
    Frontier expand all handled (item :: queue) (budget + 1)
    → holds handled (item :: queue) state
    → (∃ after,
        handle item state = some (expand item, after)
        ∧ holds (handled ++ [item]) (queue ++ expand item) after)
      ∨ (handle item state = none ∧ stuck)

/-- From a valid frontier a loop ends after it has handled what the walk comes to, unless it gets
stuck. By induction on the budget.
-/
theorem Frontier.drain_cases (branching : Branching expand all)
    (along : HandlesAlong expand all handle holds stuck) {handled queue : List α} {budget : Nat}
    {state : σ} (frontier : Frontier expand all handled queue budget)
    (now : holds handled queue state)
    : (∃ last,
        drain handle budget queue state = some (levelOrder expand budget queue, last)
        ∧ holds (handled ++ levelOrder expand budget queue) [] last)
      ∨ (drain handle budget queue state = none ∧ stuck) := by
  induction budget generalizing handled queue state with
  | zero =>
      obtain rfl := frontier.queue_eq_nil
      exact .inl ⟨state, rfl, by simpa [levelOrder] using now⟩
  | succ budget ih =>
      cases queue with
      | nil => exact .inl ⟨state, rfl, by simpa [levelOrder] using now⟩
      | cons item queue =>
          rcases along handled item queue budget state frontier now with
            ⟨after, next, fits⟩ | ⟨stops, reason⟩
          · rw [drain_cons next]
            rcases ih (frontier.next branching) fits with ⟨last, others, ends⟩ | ⟨stops, reason⟩
            · refine .inl ⟨last, ?_, ?_⟩
              · rw [others]
                rfl
              · simpa [levelOrder] using ends
            · exact .inr ⟨by rw [stops]; rfl, reason⟩
          · exact .inr ⟨drain_stuck stops budget queue, reason⟩

/-- A loop that cannot get stuck ends with whatever budget is as large as the number of items. -/
theorem Frontier.drain_ends (branching : Branching expand all)
    (along : HandlesAlong expand all handle holds False) {queue : List α} {budget : Nat} {state : σ}
    (frontier : Frontier expand all [] queue budget) (now : holds [] queue state)
    : ∃ last,
        (∀ larger,
          budget ≤ larger
          → drain handle larger queue state = some (levelOrder expand budget queue, last))
        ∧ holds (levelOrder expand budget queue) [] last := by
  rcases frontier.drain_cases branching along now with ⟨last, ends, fits⟩ | ⟨-, nothing⟩
  · exact ⟨last, fun larger more => drain_of_le ends more, fits⟩
  · exact nothing.elim

end

-----------------------------------------------------------------------------------------
-- Walks in a view
-----------------------------------------------------------------------------------------

@[simp] theorem levelOrder_nil (expand : α → List α) (budget : Nat)
    : levelOrder expand budget [] = [] := by
  cases budget <;> rfl

/-- Whatever lies behind a view of items, a walk reaches its queue and all that its items lead to
when it is complete in the view. By induction on the budget.
-/
theorem Frontier.complete_view (branching : Branching expand all) {other : β → List β}
    {view : β → α} (same : ∀ item, (other item).map view = expand (view item)) {handled : List α}
    {queue : List β} {budget : Nat} (frontier : Frontier expand all handled (queue.map view) budget)
    : let walked := levelOrder other budget queue
      queue ⊆ walked ∧ ∀ item ∈ walked, other item ⊆ walked := by
  intro walked
  induction budget generalizing handled queue with
  | zero =>
      obtain rfl := List.map_eq_nil_iff.mp frontier.queue_eq_nil
      exact ⟨List.nil_subset _, by simp [walked]⟩
  | succ budget ih =>
      cases queue with
      | nil => exact ⟨List.nil_subset _, by simp [walked]⟩
      | cons item queue =>
          have after := frontier.next branching
          rw [← same, ← List.map_append] at after
          obtain ⟨reached, closed⟩ := ih after
          obtain ⟨queued, below⟩ := List.append_subset.mp reached
          have first : walked = item :: levelOrder other budget (queue ++ other item) := rfl
          rw [first]
          refine ⟨List.cons_subset_cons item queued, ?_⟩
          intro next member
          apply List.subset_cons_of_subset
          rcases List.mem_cons.mp member with rfl | later
          · exact below
          · exact closed next later

/-- Whatever a walk handles was queued from the start or something that it handled leads to it, by
induction on the budget.
-/
theorem levelOrder_origin {budget : Nat} {queue : List α} {item : α}
    (walked : item ∈ levelOrder expand budget queue)
    : item ∈ queue ∨ ∃ above ∈ levelOrder expand budget queue, item ∈ expand above := by
  induction budget generalizing queue with
  | zero => cases walked
  | succ budget ih =>
      cases queue with
      | nil => cases walked
      | cons first queue =>
          rcases List.mem_cons.mp walked with rfl | later
          · exact .inl List.mem_cons_self
          · rcases ih later with queued | ⟨above, member, leads⟩
            · rcases List.mem_append.mp queued with old | new
              · exact .inl (List.mem_cons_of_mem first old)
              · exact .inr ⟨first, List.mem_cons_self, new⟩
            · exact .inr ⟨above, List.mem_cons_of_mem first member, leads⟩

/-- Whatever holds of the queue and passes on from each item to all that it leads to holds of all
that a walk handles. By induction on the budget.
-/
theorem levelOrder_forall {good : α → Prop} {budget : Nat} {queue : List α}
    (start : ∀ item ∈ queue, good item)
    (next : ∀ above, good above → ∀ item ∈ expand above, good item)
    : ∀ item ∈ levelOrder expand budget queue, good item := by
  induction budget generalizing queue with
  | zero => exact fun item walked => absurd walked List.not_mem_nil
  | succ budget ih =>
      cases queue with
      | nil => exact fun item walked => absurd walked List.not_mem_nil
      | cons first queue =>
          have now := start first List.mem_cons_self
          have later : ∀ item ∈ queue ++ expand first, good item := by
            intro item member
            rcases List.mem_append.mp member with old | new
            · exact start item (List.mem_cons_of_mem first old)
            · exact next first now item new
          intro item walked
          rcases List.mem_cons.mp walked with rfl | rest
          · exact now
          · exact ih later item rest

-----------------------------------------------------------------------------------------
-- Generations
-----------------------------------------------------------------------------------------

/-- The items that a number of steps leads to from the start, in the order of the items that lead to
them.
-/
def generation (expand : α → List α) (start : List α) : Nat → List α
  | 0 => start
  | steps + 1 => (generation expand start steps).flatMap expand

/-- The generations up to a number of steps, one after the other. -/
def generations (expand : α → List α) (start : List α) (count : Nat) : List α :=
  (List.range count).flatMap (generation expand start)

theorem generations_succ (expand : α → List α) (start : List α) (count : Nat)
    : generations expand start (count + 1)
      = generations expand start count ++ generation expand start count := by
  simp [generations, List.range_succ]

/-- While there is a next generation, each one before has an item. -/
theorem le_length_generations {start : List α} {count : Nat}
    (more : generation expand start count ≠ [])
    : count ≤ (generations expand start count).length := by
  induction count with
  | zero => exact Nat.zero_le _
  | succ count ih =>
      have before : generation expand start count ≠ [] := by
        intro nothing
        exact more (by rw [generation, nothing]; rfl)
      have filled := List.length_pos_iff.mpr before
      have earlier := ih before
      rw [generations_succ, List.length_append]
      omega

/-- A walk handles the front of its queue before anything that this leads to, by induction on the
front.
-/
theorem Frontier.front (branching : Branching expand all) {handled front back : List α}
    {budget : Nat} (frontier : Frontier expand all handled (front ++ back) budget)
    : ∃ rest,
        budget = front.length + rest
        ∧ levelOrder expand budget (front ++ back)
          = front ++ levelOrder expand rest (back ++ front.flatMap expand)
        ∧ Frontier expand all (handled ++ front) (back ++ front.flatMap expand) rest := by
  induction front generalizing handled back budget with
  | nil => exact ⟨budget, by simp, by simp, by simpa using frontier⟩
  | cons item front ih =>
      cases budget with
      | zero => exact absurd frontier.queue_eq_nil (List.cons_ne_nil item _)
      | succ budget =>
          rw [List.cons_append] at frontier
          have after := frontier.next branching
          rw [List.append_assoc front] at after
          obtain ⟨rest, size, walked, later⟩ := ih after
          refine ⟨rest, ?_, ?_, ?_⟩
          · rw [size, List.length_cons]
            omega
          · simpa [levelOrder] using walked
          · simpa using later

/-- After each generation the next one is the whole queue of a walk, by induction on their number.
-/
theorem Frontier.after_generations (branching : Branching expand all) {start : List α}
    {budget : Nat} (frontier : Frontier expand all [] start budget) (count : Nat)
    : ∃ rest,
        budget = (generations expand start count).length + rest
        ∧ levelOrder expand budget start
          = generations expand start count
            ++ levelOrder expand rest (generation expand start count)
        ∧ Frontier expand all (generations expand start count) (generation expand start count)
            rest := by
  induction count with
  | zero => exact ⟨budget, by simp [generations], rfl, frontier⟩
  | succ count ih =>
      obtain ⟨budget', size, walked, later⟩ := ih
      rw [← List.append_nil (generation expand start count)] at later
      obtain ⟨rest, fewer, front, next⟩ := later.front branching
      rw [List.append_nil] at front
      rw [generations_succ]
      refine ⟨rest, ?_, ?_, next⟩
      · rw [List.length_append]
        omega
      · rw [walked, front, List.append_assoc]
        rfl

/-- A walk with a sufficient budget goes through the generations of its start. -/
theorem Frontier.levelOrder_eq (branching : Branching expand all) {start : List α} {budget : Nat}
    (frontier : Frontier expand all [] start budget)
    : levelOrder expand budget start = generations expand start budget := by
  obtain ⟨rest, size, walked, later⟩ := frontier.after_generations branching budget
  have last : generation expand start budget = [] := by
    by_contra more
    have enough := le_length_generations more
    obtain rfl : rest = 0 := by omega
    exact more later.queue_eq_nil
  rw [walked, last, levelOrder_nil, List.append_nil]

end MutationTesting
