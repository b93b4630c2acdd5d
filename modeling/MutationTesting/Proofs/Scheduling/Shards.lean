import MutationTesting.Scheduling.Shards

/-! Shards tile the items that they are cut from: each starts where the one before it ends, and
their slices put together are all items in order.
-/

namespace MutationTesting

namespace Shard

/-- Starts do not go backwards, by the two monotone parts of their formula. -/
theorem start_le_start_succ (count workers worker : Nat)
    : start count workers worker ≤ start count workers (worker + 1) := by
  unfold start
  have whole : worker * (count / workers) ≤ (worker + 1) * (count / workers) :=
    Nat.mul_le_mul_right _ (Nat.le_succ worker)
  omega

theorem start_le_start (count workers : Nat) {worker other : Nat} (before : worker ≤ other)
    : start count workers worker ≤ start count workers other := by
  induction before with
  | refl => exact Nat.le_refl _
  | step _ ih => exact Nat.le_trans ih (start_le_start_succ count workers _)

/-- The shard after the last one would start where the items end, by the division law. -/
theorem start_self (count : Nat) {workers : Nat} (pos : 0 < workers)
    : start count workers workers = count := by
  have rest : count % workers < workers := Nat.mod_lt count pos
  have division := Nat.div_add_mod count workers
  unfold start
  omega

/-- A shard that does not reach beyond the items has some of them unless it is empty. -/
theorem slice_eq_nil_iff {shard : Shard} {items : List α} (inside : shard.last ≤ items.length)
    : shard.slice items = [] ↔ shard.isEmpty = true := by
  rw [← List.length_eq_zero_iff, slice, List.length_take, List.length_drop, isEmpty,
    decide_eq_true_eq]
  omega

end Shard

/-- No shard reaches beyond the items, since the last one ends with them. -/
theorem last_le_of_mem_shards {count workers : Nat} {shard : Shard}
    (member : shard ∈ shards count workers)
    : shard.last ≤ count := by
  obtain ⟨worker, inside, rfl⟩ := List.mem_map.mp member
  have before : worker + 1 ≤ workers := List.mem_range.mp inside
  calc
    Shard.start count workers (worker + 1)
    _ ≤ Shard.start count workers workers := Shard.start_le_start count workers before
    _ = count := Shard.start_self count (Nat.zero_lt_of_lt before)

/-- The slices of the first shards are the items up to where the next shard starts.
Witness: induction on the number of shards, where the next slice extends the prefix.
-/
theorem flatten_slices_range (items : List α) (count workers shown : Nat)
    : ((List.range shown).map fun worker =>
        Shard.slice
          {
            first := Shard.start count workers worker
            last := Shard.start count workers (worker + 1)
          }
          items).flatten
      = items.take (Shard.start count workers shown) := by
  induction shown with
  | zero => simp [Shard.start]
  | succ shown ih =>
      have grows := Shard.start_le_start_succ count workers shown
      obtain ⟨size, next⟩ := Nat.exists_eq_add_of_le grows
      rw [List.range_succ, List.map_append, List.flatten_append, ih, next, List.take_add]
      simp [Shard.slice, next]

/-- The slices of all shards are all items. -/
theorem flatten_slices_shards (items : List α) {workers : Nat} (pos : 0 < workers)
    : ((shards items.length workers).map (·.slice items)).flatten = items := by
  have covered := flatten_slices_range items items.length workers workers
  rw [Shard.start_self items.length pos, List.take_length] at covered
  rw [shards, List.map_map]
  exact covered

end MutationTesting
