import Mathlib.Algebra.Group.Nat.Defs
import Mathlib.Order.MinMax
import MutationTesting.Proofs.Configuration.Timeouts

/-! Timeouts are exact. A duration may be multiplied in machine words, its seconds and nanoseconds
apart, with the carry added at the end and every overflow noticed: the product is that of the
numbers of nanoseconds, or the longest duration when it is too large. So a timeout never wraps
around to a short one, and more time, a larger factor or a larger floor never make it shorter.
-/

namespace MutationTesting

namespace Duration

-----------------------------------------------------------------------------------------
-- Products in machine words
-----------------------------------------------------------------------------------------

/-- The product of two words, none when it does not fit into one. -/
def wordProduct? (left right : UInt64) : Option UInt64 :=
  if left.toNat * right.toNat < UInt64.size then some (left * right) else none

/-- The sum of two words, none when it does not fit into one. -/
def wordSum? (left right : UInt64) : Option UInt64 :=
  if left.toNat + right.toNat < UInt64.size then some (left + right) else none

/-- The product of the nanoseconds with a factor, in one word. -/
def nanosProduct (duration : Duration) (factor : UInt32) : UInt64 :=
  UInt64.ofNat duration.nanos * factor.toUInt64

/-- The product with a factor in machine words. The nanoseconds are multiplied without a check; the
seconds are multiplied and then get the carry, both with one.
-/
def mulWords? (duration : Duration) (factor : UInt32) : Option Duration := do
  let total := duration.nanosProduct factor
  let product ← wordProduct? (UInt64.ofNat duration.secs) factor.toUInt64
  let secs ← wordSum? product (total / 1000000000)
  some
    {
      secs := secs.toNat
      nanos := (total % 1000000000).toNat
      secs_lt := secs.toNat_lt
      nanos_lt := by
        rw [UInt64.toNat_mod]
        exact Nat.mod_lt _ (by decide)
    }

theorem wordProduct?_of_lt {left right : UInt64} (fits : left.toNat * right.toNat < UInt64.size)
    : wordProduct? left right = some (left * right)
      ∧ (left * right).toNat = left.toNat * right.toNat := by
  refine ⟨if_pos fits, ?_⟩
  rw [UInt64.toNat_mul]
  exact Nat.mod_eq_of_lt fits

theorem wordSum?_of_lt {left right : UInt64} (fits : left.toNat + right.toNat < UInt64.size)
    : wordSum? left right = some (left + right)
      ∧ (left + right).toNat = left.toNat + right.toNat := by
  refine ⟨if_pos fits, ?_⟩
  rw [UInt64.toNat_add]
  exact Nat.mod_eq_of_lt fits

/-- Less than a second times a 32-bit factor always fits into a word. -/
theorem toNat_nanosProduct (duration : Duration) (factor : UInt32)
    : (duration.nanosProduct factor).toNat = duration.nanos * factor.toNat := by
  have short := duration.nanos_lt
  have small := factor.toNat_lt
  unfold nanosPerSecond at short
  have fits : duration.nanos * factor.toNat < 2 ^ 64 := by
    calc
      duration.nanos * factor.toNat
      _ ≤ 1000000000 * 2 ^ 32 := Nat.mul_le_mul (Nat.le_of_lt short) (Nat.le_of_lt small)
      _ < 2 ^ 64 := by decide
  unfold nanosProduct
  have word : duration.nanos < UInt64.size := Nat.lt_trans short (by decide)
  rw [UInt64.toNat_mul, UInt64.toNat_ofNat_of_lt' word, UInt32.toNat_toUInt64]
  exact Nat.mod_eq_of_lt fits

/-- The product in machine words is the product, and it overflows when that does. -/
theorem mulWords?_eq (duration : Duration) (factor : UInt32)
    : duration.mulWords? factor = duration.mul? factor.toNat := by
  have secs : (UInt64.ofNat duration.secs).toNat = duration.secs :=
    UInt64.toNat_ofNat_of_lt' duration.secs_lt
  have carry : (duration.nanosProduct factor / 1000000000).toNat
      = duration.nanos * factor.toNat / nanosPerSecond := by
    rw [UInt64.toNat_div, toNat_nanosProduct]
    rfl
  have rest : (duration.nanosProduct factor % 1000000000).toNat
      = duration.nanos * factor.toNat % nanosPerSecond := by
    rw [UInt64.toNat_mod, toNat_nanosProduct]
    rfl
  have product : (UInt64.ofNat duration.secs).toNat * factor.toUInt64.toNat
      = duration.secs * factor.toNat := by
    rw [secs, UInt32.toNat_toUInt64]
  by_cases whole : duration.secs * factor.toNat < UInt64.size
  · obtain ⟨multiplied, value⟩ := wordProduct?_of_lt (product ▸ whole)
    rw [product] at value
    by_cases fits
        : duration.secs * factor.toNat + duration.nanos * factor.toNat / nanosPerSecond < secondLimit
    · obtain ⟨added, sum⟩ := wordSum?_of_lt (value ▸ carry ▸ fits)
      rw [value, carry] at sum
      rw [mul?, dif_pos fits]
      simp only [mulWords?, multiplied, added, Option.bind_eq_bind, Option.bind_some, sum, rest]
    · have overflows : wordSum? (UInt64.ofNat duration.secs * factor.toUInt64)
          (duration.nanosProduct factor / 1000000000) = none :=
        if_neg (value ▸ carry ▸ fits)
      rw [mul?, dif_neg fits]
      simp only [mulWords?, multiplied, overflows, Option.bind_eq_bind, Option.bind_some,
        Option.bind_none]
  · -- The seconds alone are too many, and the carry does not make them fewer.
    have overflows : wordProduct? (UInt64.ofNat duration.secs) factor.toUInt64 = none :=
      if_neg (product ▸ whole)
    have still
        : ¬ duration.secs * factor.toNat + duration.nanos * factor.toNat / nanosPerSecond
            < secondLimit :=
      fun fits => whole (Nat.lt_of_le_of_lt (Nat.le_add_right _ _) fits)
    rw [mul?, dif_neg still]
    simp only [mulWords?, overflows, Option.bind_eq_bind, Option.bind_none]

-----------------------------------------------------------------------------------------
-- Parts and numbers
-----------------------------------------------------------------------------------------

/-- The parts of a duration are told by its number of nanoseconds. -/
theorem parts_eq (duration : Duration)
    : duration.secs = duration.toNanos / nanosPerSecond
      ∧ duration.nanos = duration.toNanos % nanosPerSecond := by
  have short := duration.nanos_lt
  unfold nanosPerSecond at short
  unfold toNanos nanosPerSecond
  constructor <;> omega

theorem toNanos_lt (duration : Duration) : duration.toNanos < 2 ^ 64 * 10 ^ 9 := by
  have whole := duration.secs_lt
  have short := duration.nanos_lt
  unfold secondLimit UInt64.size at whole
  unfold nanosPerSecond at short
  unfold toNanos nanosPerSecond
  omega

end Duration

namespace TimeoutPolicy

/-- A timeout in nanoseconds, with the longest duration in numbers. -/
theorem toNanos_timeoutFor_eq (policy : TimeoutPolicy) (baseline : Duration)
    : (policy.timeoutFor baseline).toNanos
      = max (min (baseline.toNanos * policy.multiplier) (2 ^ 64 * 10 ^ 9 - 1))
          policy.floor.toNanos := by
  have last : secondLimit * nanosPerSecond = 2 ^ 64 * 10 ^ 9 := by decide
  rw [toNanos_timeoutFor, Nat.mul_comm, Duration.toNanos_longest, last]

/-- More time, a larger factor and a larger floor never make a timeout shorter. -/
theorem timeoutFor_mono {policy other : TimeoutPolicy} {baseline longer : Duration}
    (slower : baseline.ble longer = true) (factor : policy.multiplier ≤ other.multiplier)
    (floor : policy.floor.ble other.floor = true)
    : (policy.timeoutFor baseline).ble (other.timeoutFor longer) = true := by
  rw [Duration.ble_iff] at slower floor ⊢
  rw [toNanos_timeoutFor_eq, toNanos_timeoutFor_eq]
  exact max_le_max (min_le_min_right _ (Nat.mul_le_mul slower factor)) floor

/-- Timeouts are exact and saturate. In nanoseconds a timeout is the multiple of the time that the
test took, at most that of the longest duration and at least the floor; whole seconds of it are
carried. The parts may be multiplied in machine words. So no timeout is below the floor, none is
below the time that the test took unless the factor is zero, and timeouts grow with that time, with
the factor and with the floor.
-/
theorem timeoutFor_exact (policy : TimeoutPolicy) (baseline : Duration)
    : let exact :=
        max (min (baseline.toNanos * policy.multiplier) (2 ^ 64 * 10 ^ 9 - 1))
          policy.floor.toNanos
      let timeout := policy.timeoutFor baseline
      timeout.toNanos = exact
      ∧ (timeout.secs = exact / 10 ^ 9 ∧ timeout.nanos = exact % 10 ^ 9)
      ∧ (∀ factor : UInt32,
          factor.toNat = policy.multiplier
          → ((baseline.mulWords? factor).getD .longest).max policy.floor = timeout)
      ∧ policy.floor.ble timeout = true
      ∧ (0 < policy.multiplier → baseline.ble timeout = true)
      ∧ ∀ (other : TimeoutPolicy) (longer : Duration),
          baseline.ble longer = true
          → policy.multiplier ≤ other.multiplier
          → policy.floor.ble other.floor = true
          → timeout.ble (other.timeoutFor longer) = true := by
  intro exact timeout
  have value : timeout.toNanos = exact := policy.toNanos_timeoutFor_eq baseline
  refine ⟨value, ?_, ?_, ?_, ?_, fun other longer => timeoutFor_mono⟩
  · rw [← value]
    exact timeout.parts_eq
  · intro factor word
    rw [Duration.mulWords?_eq, word]
    rfl
  · rw [Duration.ble_iff, value]
    exact Nat.le_max_right _ _
  · intro pos
    rw [Duration.ble_iff, value]
    have short := baseline.toNanos_lt
    have grows := Nat.le_mul_of_pos_right baseline.toNanos pos
    omega

/-- A product that is just not too large. Twice the seconds alone leave room for one more second,
which is what the nanoseconds carry; three times the time is the longest duration.
-/
theorem timeoutFor_exact_carried
    : let baseline : Duration := { secs := 9223372036854775807, nanos := 999999999 }
      let policy : TimeoutPolicy := { multiplier := 2, floor := .zero }
      let larger : TimeoutPolicy := { multiplier := 3, floor := .zero }
      (2 : UInt32).toNat = policy.multiplier
      ∧ ((baseline.mulWords? 2).getD .longest).max policy.floor = policy.timeoutFor baseline
      ∧ (policy.timeoutFor baseline).secs = 18446744073709551615
      ∧ (policy.timeoutFor baseline).nanos = 999999998
      ∧ 0 < policy.multiplier
      ∧ baseline.ble (policy.timeoutFor baseline) = true
      ∧ policy.multiplier ≤ larger.multiplier
      ∧ larger.timeoutFor baseline = .longest
      ∧ (policy.timeoutFor baseline).ble (larger.timeoutFor baseline) = true := by
  intro baseline policy larger
  have word : (2 : UInt32).toNat = policy.multiplier := rfl
  have pos : 0 < policy.multiplier := Nat.two_pos
  have factors : policy.multiplier ≤ larger.multiplier := Nat.le_succ 2
  have same : baseline.ble baseline = true := by decide
  have floors : policy.floor.ble larger.floor = true := by decide
  obtain ⟨-, ⟨secs, nanos⟩, words, -, longer, grows⟩ := policy.timeoutFor_exact baseline
  exact ⟨word, words 2 word, secs.trans (by decide), nanos.trans (by decide), pos, longer pos,
    factors, by decide, grows larger baseline same factors floors⟩

end TimeoutPolicy

end MutationTesting
