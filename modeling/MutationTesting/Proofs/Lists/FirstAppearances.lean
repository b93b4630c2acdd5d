import Mathlib.Data.List.Induction

/-! Items without their repetitions, in the order in which they first appear. -/

namespace MutationTesting

/-- Items from which repetitions are dropped are distinct: the first one drops out of the rest. -/
theorem nodup_eraseDups [BEq α] [LawfulBEq α] (items : List α) : items.eraseDups.Nodup := by
  cases items with
  | nil => exact List.nodup_nil
  | cons first rest =>
      rw [List.eraseDups_cons, List.nodup_cons]
      exact ⟨by simp [List.mem_eraseDups], nodup_eraseDups _⟩
termination_by items.length
decreasing_by exact Nat.lt_succ_of_le (List.length_filter_le _ _)

/-- One more item counts if it has not appeared before. -/
theorem eraseDups_concat [DecidableEq α] (items : List α) (item : α)
    : (items ++ [item]).eraseDups
      = if item ∈ items then items.eraseDups else items.eraseDups ++ [item] := by
  rw [List.eraseDups_append, List.cons_removeAll]
  by_cases member : item ∈ items
  · simp [member]
  · simp [member, List.eraseDups_cons]

/-- What tells items apart may be done to them before or after repetitions are dropped. -/
theorem eraseDups_map_of_injective [DecidableEq α] [DecidableEq β] {f : α → β}
    (injective : Function.Injective f) (items : List α)
    : (items.map f).eraseDups = items.eraseDups.map f := by
  induction items using List.reverseRecOn with
  | nil => rfl
  | append_singleton rest last ih =>
      rw [List.map_append, List.map_singleton, eraseDups_concat, eraseDups_concat, ih]
      by_cases listed : last ∈ rest <;> simp [injective.eq_iff, listed]

end MutationTesting
