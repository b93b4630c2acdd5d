import Mathlib.Data.List.Nodup
import MutationTesting.Recording.CallTree

/-! A walk with a queue that never meets an item in two ways handles every item once and reaches
everything below its starts, provided that its budget is as large as the number of items.
-/

namespace MutationTesting

variable {expand : α → List α} {all : List α}

/-- Each of the given items leads to some of them, and no item is reached from two of them or from
one of them twice.
-/
structure Branching (expand : α → List α) (all : List α) : Prop where
  closed : ∀ item ∈ all, expand item ⊆ all
  distinct : ∀ item ∈ all, (expand item).Nodup
  apart
    : ∀ item above other,
        above ∈ all → other ∈ all → item ∈ expand above → item ∈ expand other → above = other

/-- A walk has handled some items and has a queue of others. No item is met twice, whatever leads to
one of them has been handled, and the budget suffices for all items that are left.
-/
structure Frontier (expand : α → List α) (all handled queue : List α) (budget : Nat) : Prop where
  known : handled ++ queue ⊆ all
  unique : (handled ++ queue).Nodup
  introduced : ∀ item ∈ handled ++ queue, ∀ above ∈ all, item ∈ expand above → above ∈ handled
  budget : all.length ≤ handled.length + budget

/-- A walk whose budget is used up has nothing left in its queue, since it has handled as many
different items as there are.
-/
theorem Frontier.queue_eq_nil {handled queue : List α}
    (frontier : Frontier expand all handled queue 0)
    : queue = [] := by
  have size := frontier.unique.length_le_of_subset frontier.known
  have budget := frontier.budget
  rw [List.length_append] at size
  apply List.eq_nil_of_length_eq_zero
  omega

/-- What the next item leads to is new: only this item leads to it, and it has just been handled. -/
theorem Frontier.next (branching : Branching expand all) {item : α} {handled queue : List α}
    {budget : Nat} (frontier : Frontier expand all handled (item :: queue) (budget + 1))
    : Frontier expand all (handled ++ [item]) (queue ++ expand item) budget := by
  have shifted : handled ++ item :: queue = handled ++ [item] ++ queue := by simp
  have known := frontier.known
  have unique := frontier.unique
  have introduced := frontier.introduced
  have inAll : item ∈ all := known (by simp)
  rw [shifted] at known unique introduced
  have unhandled : item ∉ handled := by
    intro member
    have apart := (List.nodup_append.mp frontier.unique).2.2
    exact apart item member item List.mem_cons_self rfl
  refine {
    known := ?_
    unique := ?_
    introduced := ?_
    budget := ?_
  }
  · rw [← List.append_assoc]
    exact List.append_subset.mpr ⟨known, branching.closed item inAll⟩
  · rw [← List.append_assoc]
    refine List.Nodup.append unique (branching.distinct item inAll) ?_
    intro below old new
    exact unhandled (introduced below old item inAll new)
  · intro below member above aboveKnown leads
    rw [← List.append_assoc] at member
    rcases List.mem_append.mp member with old | new
    · exact List.mem_append_left [item] (introduced below old above aboveKnown leads)
    · rw [branching.apart below above item aboveKnown inAll leads new]
      simp
  · have enough := frontier.budget
    rw [List.length_append, List.length_singleton]
    omega

/-- From a valid frontier a walk handles new items only, among them its queue and all that they lead
to. By induction on the budget.
-/
theorem Frontier.complete (branching : Branching expand all) {handled queue : List α}
    {budget : Nat} (frontier : Frontier expand all handled queue budget)
    : let walked := levelOrder expand budget queue
      (handled ++ walked).Nodup
      ∧ walked ⊆ all
      ∧ queue ⊆ walked
      ∧ ∀ item ∈ walked, expand item ⊆ walked := by
  intro walked
  induction budget generalizing handled queue with
  | zero =>
      obtain rfl := frontier.queue_eq_nil
      have none : walked = [] := rfl
      rw [none]
      exact ⟨frontier.unique, List.nil_subset all, List.nil_subset [], by simp⟩
  | succ budget ih =>
      cases queue with
      | nil =>
          have none : walked = [] := rfl
          rw [none]
          exact ⟨frontier.unique, List.nil_subset all, List.nil_subset [], by simp⟩
      | cons item queue =>
          obtain ⟨unique, known, reached, closed⟩ := ih (frontier.next branching)
          have first : walked = item :: levelOrder expand budget (queue ++ expand item) := rfl
          obtain ⟨queued, below⟩ := List.append_subset.mp reached
          rw [first]
          refine ⟨by simpa using unique, ?_, ?_, ?_⟩
          · exact List.cons_subset.mpr ⟨frontier.known (by simp), known⟩
          · exact List.cons_subset_cons item queued
          · intro other member
            apply List.subset_cons_of_subset
            rcases List.mem_cons.mp member with rfl | later
            · exact below
            · exact closed other later

/-- A walk comes to the same in a view of its items. -/
theorem map_levelOrder {other : β → List β} {view : α → β}
    (same : ∀ item, (expand item).map view = other (view item)) (budget : Nat) (queue : List α)
    : (levelOrder expand budget queue).map view = levelOrder other budget (queue.map view) := by
  induction budget generalizing queue with
  | zero => rfl
  | succ budget ih =>
      cases queue with
      | nil => rfl
      | cons item queue =>
          simp only [levelOrder, List.map_cons, ih, List.map_append, same]

end MutationTesting
