import MutationTesting.Configuration.Configuration

/-! Durations and timeouts as numbers of nanoseconds. Carrying and saturation do not show in these
numbers beyond the longest duration.
-/

namespace MutationTesting

namespace Duration

/-- Durations are ordered like their numbers of nanoseconds. -/
theorem ble_iff (left right : Duration) : left.ble right = true ↔ left.toNanos ≤ right.toNanos := by
  have first := left.nanos_lt
  have second := right.nanos_lt
  unfold nanosPerSecond at first second
  simp only [ble, toNanos, nanosPerSecond, Bool.or_eq_true, Bool.and_eq_true, decide_eq_true_eq,
    beq_iff_eq]
  omega

/-- A number of nanoseconds that a duration has is no longer than that. -/
theorem ofNanos_ble {nanos : Nat} {duration : Duration} (short : nanos ≤ duration.toNanos)
    : (ofNanos nanos).ble duration = true := by
  have whole := duration.secs_lt
  have rest := duration.nanos_lt
  unfold toNanos nanosPerSecond at short
  unfold nanosPerSecond at rest
  have fits : 0 + nanos / nanosPerSecond < secondLimit := by
    unfold nanosPerSecond
    omega
  rw [ble_iff, ofNanos, ofParts?, dif_pos fits]
  simp only [Option.getD_some, toNanos, nanosPerSecond]
  omega

/-- The longest duration is just short of the first number of seconds that is too large. -/
theorem toNanos_longest : longest.toNanos = secondLimit * nanosPerSecond - 1 := by
  decide

theorem toNanos_max (left right : Duration)
    : (left.max right).toNanos = Nat.max left.toNanos right.toNanos := by
  unfold max
  by_cases ordered : left.toNanos ≤ right.toNanos
  · rw [if_pos ((ble_iff left right).mpr ordered)]
    exact (Nat.max_eq_right ordered).symm
  · rw [if_neg (ordered ∘ (ble_iff left right).mp)]
    exact (Nat.max_eq_left (Nat.le_of_not_le ordered)).symm

/-- The product with a factor, or the longest duration when it is too large. -/
theorem toNanos_mul (duration : Duration) (factor : Nat)
    : ((duration.mul? factor).getD longest).toNanos
      = min (factor * duration.toNanos) longest.toNanos := by
  -- The product of the nanoseconds is carried into the seconds, which changes no number.
  have carried : factor * duration.toNanos
      = (duration.secs * factor + duration.nanos * factor / nanosPerSecond) * nanosPerSecond
        + duration.nanos * factor % nanosPerSecond := by
    rw [Nat.add_mul, Nat.add_assoc, Nat.div_add_mod', toNanos, Nat.mul_add, Nat.mul_comm factor,
      Nat.mul_right_comm, Nat.mul_comm factor]
  have rest := Nat.mod_lt (duration.nanos * factor) (show 0 < nanosPerSecond by decide)
  have last := toNanos_longest
  rw [carried]
  unfold mul?
  dsimp only
  by_cases fits : duration.secs * factor + duration.nanos * factor / nanosPerSecond < secondLimit
  · have whole := Nat.mul_le_mul_right nanosPerSecond (Nat.succ_le_of_lt fits)
    rw [Nat.succ_mul] at whole
    rw [dif_pos fits, Option.getD_some, Nat.min_eq_left (by omega)]
    rfl
  · have whole := Nat.mul_le_mul_right nanosPerSecond (Nat.le_of_not_lt fits)
    rw [dif_neg fits, Option.getD_none, Nat.min_eq_right (by omega)]

end Duration

/-- A timeout in nanoseconds: the multiple of the time that the test took, unless it is longer than
any duration, but at least the least time.
-/
theorem TimeoutPolicy.toNanos_timeoutFor (policy : TimeoutPolicy) (baseline : Duration)
    : (policy.timeoutFor baseline).toNanos
      = max (min (policy.multiplier * baseline.toNanos) Duration.longest.toNanos)
          policy.floor.toNanos := by
  rw [timeoutFor, Duration.toNanos_max, Duration.toNanos_mul]

end MutationTesting
