import Mathlib.Data.List.Range
import MutationTesting.Proofs.Scheduling.Shards

/-! Shards may be cut one after the other, each from where the one before it ends, with numbers of
limited size. No sum then gets too large, and what comes out are the shards: as many as there are
workers, one next to the other from the first item to the last, with sizes that differ by one at
most, the larger ones first.
-/

namespace MutationTesting

namespace Shard

/-- How many items the shard of a worker has. -/
def size (count workers worker : Nat) : Nat :=
  count / workers + if worker < count % workers then 1 else 0

/-- The sum of two numbers, none when it reaches the limit. -/
def sum? (limit left right : Nat) : Option Nat :=
  if left + right < limit then some (left + right) else none

/-- The shards of some workers, the first of which starts at the given place. All workers get the
same number of items, and the first ones one more as long as there are extra items.
-/
def cutFrom? (limit whole extra : Nat) : (place : Nat) → (workers : List Nat) → Option (List Shard)
  | _, [] => some []
  | place, worker :: rest => do
      let size ← sum? limit whole (if worker < extra then 1 else 0)
      let last ← sum? limit place size
      let next ← sum? limit place size
      let others ← cutFrom? limit whole extra next rest
      some ({ first := place, last } :: others)

/-- The shards cut one after the other with numbers below a limit; none if one gets too large. -/
def cut? (limit count workers : Nat) : Option (List Shard) :=
  cutFrom? limit (count / workers) (count % workers) 0 (List.range workers)

theorem sum?_of_lt {limit left right : Nat} (fits : left + right < limit)
    : sum? limit left right = some (left + right) :=
  if_pos fits

-----------------------------------------------------------------------------------------
-- One shard
-----------------------------------------------------------------------------------------

/-- The next shard starts where this one ends. -/
theorem start_succ (count workers worker : Nat)
    : start count workers (worker + 1) = start count workers worker + size count workers worker := by
  unfold start size
  rw [Nat.succ_mul]
  split <;> omega

theorem start_zero (count workers : Nat) : start count workers 0 = 0 := by
  simp [start]

/-- A shard ends within the items. -/
theorem start_succ_le {count workers worker : Nat} (staff : worker < workers)
    : start count workers (worker + 1) ≤ count := by
  calc
    start count workers (worker + 1)
    _ ≤ start count workers workers := start_le_start count workers staff
    _ = count := start_self count (Nat.zero_lt_of_lt staff)

/-- The larger shards have as many items as the quotient that is rounded up. -/
theorem div_roundedUp {count workers : Nat} (staffed : 0 < workers) (extra : 0 < count % workers)
    : (count + workers - 1) / workers = count / workers + 1 := by
  have rest := Nat.mod_lt count staffed
  have division := Nat.div_add_mod' count workers
  apply Nat.div_eq_of_lt_le
  · rw [Nat.succ_mul]
    omega
  · rw [Nat.succ_mul, Nat.succ_mul]
    omega

/-- A shard has one of the two sizes that are closest to the quotient. -/
theorem size_eq_or (count : Nat) {workers : Nat} (staffed : 0 < workers) (worker : Nat)
    : size count workers worker = count / workers
      ∨ size count workers worker = (count + workers - 1) / workers := by
  unfold size
  split
  next extra =>
    right
    rw [div_roundedUp staffed (Nat.zero_lt_of_lt extra)]
  next =>
    left
    rfl

/-- A shard is empty only if the items do not suffice for all workers. -/
theorem lt_of_size_eq_zero {count workers worker : Nat} (staffed : 0 < workers)
    (empty : size count workers worker = 0)
    : count < workers := by
  have whole : count / workers = 0 := Nat.eq_zero_of_add_eq_zero_right empty
  exact (Nat.div_eq_zero_iff_lt staffed).mp whole

-----------------------------------------------------------------------------------------
-- Shards in turn
-----------------------------------------------------------------------------------------

/-- The shards of the last workers are cut from where the first of them starts.
Witness: induction on the number of these workers, where every sum stays below the number of items.
-/
theorem cutFrom?_range' {limit count workers : Nat} (fits : count < limit) (worker left : Nat)
    (staff : worker + left ≤ workers)
    : cutFrom? limit (count / workers) (count % workers) (start count workers worker)
        (List.range' worker left)
      = some ((List.range' worker left).map fun worker =>
          { first := start count workers worker, last := start count workers (worker + 1) }) := by
  induction left generalizing worker with
  | zero => rfl
  | succ left ih =>
      have next := start_succ count workers worker
      have inside : start count workers (worker + 1) ≤ count := start_succ_le (by omega)
      have sized : sum? limit (count / workers) (if worker < count % workers then 1 else 0)
          = some (size count workers worker) := by
        apply sum?_of_lt
        change size count workers worker < limit
        omega
      have moved : sum? limit (start count workers worker) (size count workers worker)
          = some (start count workers (worker + 1)) := by
        rw [next]
        apply sum?_of_lt
        omega
      have rest := ih (worker + 1) (by omega)
      simp only [List.range'_succ, List.map_cons, cutFrom?, sized, moved, rest,
        Option.bind_eq_bind, Option.bind_some]

/-- No sum gets too large, and the shards are those of the closed form. -/
theorem cut?_eq {limit count workers : Nat} (fits : count < limit)
    : cut? limit count workers = some (shards count workers) := by
  have staff : 0 + workers ≤ workers := Nat.le_of_eq (Nat.zero_add workers)
  have all := cutFrom?_range' fits 0 workers staff
  rw [start_zero, ← List.range_eq_range'] at all
  exact all

end Shard

-----------------------------------------------------------------------------------------
-- All shards
-----------------------------------------------------------------------------------------

theorem length_shards (count workers : Nat) : (shards count workers).length = workers := by
  simp [shards]

theorem getElem?_shards {count workers worker : Nat} (staff : worker < workers)
    : (shards count workers)[worker]?
      = some
          {
            first := Shard.start count workers worker
            last := Shard.start count workers (worker + 1)
          } := by
  simp [shards, staff]

/-- Each shard starts where the one before it ends. -/
theorem isChain_shards (count workers : Nat)
    : (shards count workers).IsChain fun shard next => next.first = shard.last := by
  unfold shards
  apply (List.isChain_map _).mpr
  apply (List.isChain_range _ workers).mpr
  intro worker _
  rfl

/-- Shards tile the items. For any number of items that a machine number can hold and any number of
workers there is one shard for each worker. They may be cut one after the other, where no sum gets
too large. The first one starts with the first item, each starts where the one before it ends, and
the last one ends with the last item. The sizes are the two that are closest to the quotient, and
the first shards are the larger ones, as many as items are left over; one is empty only if there
are more workers than items. The slices put together are the items in order.
-/
theorem shards_tile {limit count workers : Nat} (staffed : 0 < workers) (fits : count < limit)
    : Shard.cut? limit count workers = some (shards count workers)
      ∧ (shards count workers).length = workers
      ∧ (shards count workers).head?.map (·.first) = some 0
      ∧ ((shards count workers).IsChain fun shard next => next.first = shard.last)
      ∧ (shards count workers).getLast?.map (·.last) = some count
      ∧ (∀ worker shard,
          (shards count workers)[worker]? = some shard
          → shard.last
            = shard.first
              + (if worker < count % workers then count / workers + 1 else count / workers))
      ∧ (∀ shard ∈ shards count workers,
          (shard.last = shard.first + count / workers
            ∨ shard.last = shard.first + (count + workers - 1) / workers)
          ∧ (shard.isEmpty = true → count < workers))
      ∧ ∀ items : List α,
          items.length = count → ((shards count workers).map (·.slice items)).flatten = items := by
  refine ⟨Shard.cut?_eq fits, length_shards count workers, ?_, isChain_shards count workers, ?_, ?_,
    ?_, ?_⟩
  · rw [List.head?_eq_getElem?, getElem?_shards staffed, Option.map_some, Shard.start_zero]
  · rw [List.getLast?_eq_getElem?, length_shards, getElem?_shards (Nat.sub_one_lt_of_lt staffed),
      Option.map_some, Nat.sub_add_cancel staffed, Shard.start_self count staffed]
  · intro worker shard listed
    obtain ⟨inside, -⟩ := List.getElem?_eq_some_iff.mp listed
    rw [length_shards] at inside
    rw [getElem?_shards inside] at listed
    obtain rfl := Option.some.inj listed
    rw [Shard.start_succ, Shard.size]
    split <;> rfl
  · intro shard member
    obtain ⟨worker, inside, rfl⟩ := List.mem_map.mp member
    have next := Shard.start_succ count workers worker
    constructor
    · rcases Shard.size_eq_or count staffed worker with smaller | larger
      · left
        rw [next, smaller]
      · right
        rw [next, larger]
    · intro empty
      have backwards : Shard.start count workers (worker + 1) ≤ Shard.start count workers worker :=
        of_decide_eq_true empty
      have nothing : Shard.size count workers worker = 0 := by omega
      exact Shard.lt_of_size_eq_zero staffed nothing
  · intro items full
    rw [← full]
    exact flatten_slices_shards items staffed

/-- Two items, the most that the numbers can count, for three workers: the last shard is empty. -/
theorem two_shards_tile
    : 0 < 3
      ∧ 2 < 3
      ∧ Shard.cut? 3 2 3 = some [⟨0, 1⟩, ⟨1, 2⟩, ⟨2, 2⟩]
      ∧ ((shards 2 3).IsChain fun shard next => next.first = shard.last)
      ∧ (shards 2 3)[1]? = some ⟨1, 2⟩
      ∧ 2 = 1 + (if 1 < 2 % 3 then 2 / 3 + 1 else 2 / 3)
      ∧ (⟨2, 2⟩ ∈ shards 2 3 ∧ Shard.isEmpty ⟨2, 2⟩ = true ∧ 2 < 3)
      ∧ ((shards 2 3).map (·.slice ["a", "b"])).flatten = ["a", "b"] := by
  have staffed : 0 < 3 := by decide
  have fits : 2 < 3 := by decide
  have second : (shards 2 3)[1]? = some ⟨1, 2⟩ := rfl
  have last : (⟨2, 2⟩ : Shard) ∈ shards 2 3 := by decide
  obtain ⟨cut, -, -, chain, -, sizes, empty, slices⟩ := shards_tile staffed fits
  exact ⟨staffed, fits, cut, chain, second, sizes 1 _ second, ⟨last, rfl, (empty _ last).2 rfl⟩,
    slices _ rfl⟩

end MutationTesting
