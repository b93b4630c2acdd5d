import Mathlib.Algebra.Order.Floor.Div
import Mathlib.Data.Rat.Floor
import MutationTesting.Proofs.Program.Correspondence

/-! Loops that count down. When each step from a positive value takes the same positive amount away,
the loop comes to its end whatever the value is that it starts from. It takes as many steps as the
value divided by the amount, rounded up, and that many can always be counted.
-/

namespace MutationTesting

-----------------------------------------------------------------------------------------
-- Integers and quotients
-----------------------------------------------------------------------------------------

/-- A quotient rounded up is one more than that of what remains without the divisor. -/
theorem ceilDiv_eq_succ {dividend divisor : Nat} (positive : 0 < divisor) (more : 0 < dividend)
    : dividend ⌈/⌉ divisor = (dividend - divisor) ⌈/⌉ divisor + 1 := by
  rw [Nat.ceilDiv_eq_add_pred_div, Nat.ceilDiv_eq_add_pred_div, ← Nat.add_div_right _ positive]
  rcases Nat.le_total divisor dividend with enough | short
  · congr 1
    omega
  · rw [Nat.sub_eq_zero_of_le short, Nat.div_eq_of_lt_le (k := 1) (by omega) (by omega)]
    rw [Nat.div_eq_of_lt_le (k := 1) (by omega) (by omega)]

theorem ceil_div_natCast {dividend divisor : Nat} (positive : 0 < divisor)
    : ⌈(dividend / divisor : ℚ)⌉₊ = dividend ⌈/⌉ divisor := by
  have divisorPositive : (0 : ℚ) < divisor := Nat.cast_pos.mpr positive
  refine eq_of_forall_ge_iff fun bound => ?_
  rw [Nat.ceil_le, div_le_iff₀' divisorPositive, ceilDiv_le_iff_le_mul positive]
  exact_mod_cast Iff.rfl

/-- A 64-bit integer fits, and is what its exact value is read as. -/
theorem fit?_toInt (value : Int64) : fit? value.toInt = some value := by
  have fits : Int64.minValue.toInt ≤ value.toInt ∧ value.toInt ≤ Int64.maxValue.toInt :=
    ⟨Int64.le_iff_toInt_le.mp value.minValue_le, Int64.le_iff_toInt_le.mp value.le_maxValue⟩
  rw [fit?, if_pos fits, Int64.ofInt_toInt]

namespace Body

variable {amount value : Int64}

-----------------------------------------------------------------------------------------
-- The number of steps
-----------------------------------------------------------------------------------------

/-- How often an amount has to be taken away from a value until nothing positive is left. -/
def stepsDown (amount value : Int64) : Nat := value.toInt.toNat ⌈/⌉ amount.toInt.toNat

/-- Taking a positive amount away from a positive value does not overflow. -/
theorem toInt_lessened (positive : 0 < amount) (more : 0 < value)
    : (value - amount).toInt = value.toInt - amount.toInt := by
  have amountPositive : 0 < amount.toInt := Int64.lt_iff_toInt_lt.mp positive
  have valuePositive : 0 < value.toInt := Int64.lt_iff_toInt_lt.mp more
  have amountFits := amount.toInt_lt
  have valueFits := value.toInt_lt
  rw [Int64.toInt_sub, Int.bmod_eq_of_le] <;> omega

theorem checked_sub_of_pos (positive : 0 < amount) (more : 0 < value)
    : Operator.sub.checked value amount = .ok (value - amount) := by
  rw [Operator.checked, Operator.checkedResult, ← toInt_lessened positive more, fit?_toInt]

/-- After a step from a positive value one step less is left. -/
theorem stepsDown_of_pos (positive : 0 < amount) (more : 0 < value)
    : stepsDown amount value = stepsDown amount (value - amount) + 1 := by
  have amountPositive : 0 < amount.toInt := Int64.lt_iff_toInt_lt.mp positive
  have valuePositive : 0 < value.toInt := Int64.lt_iff_toInt_lt.mp more
  have left : (value - amount).toInt.toNat = value.toInt.toNat - amount.toInt.toNat := by
    rw [toInt_lessened positive more]
    omega
  rw [stepsDown, stepsDown, left]
  exact ceilDiv_eq_succ (by omega) (by omega)

theorem stepsDown_eq_zero_iff (positive : 0 < amount)
    : stepsDown amount value = 0 ↔ value ≤ 0 := by
  constructor
  · intro none
    by_contra more
    have next := stepsDown_of_pos positive (Int64.not_le.mp more)
    omega
  · intro done
    have nothing : value.toInt.toNat = 0 := Int.toNat_of_nonpos (Int64.le_iff_toInt_le.mp done)
    rw [stepsDown, nothing, zero_ceilDiv]

/-- There is room to count all steps. -/
theorem stepsDown_le (positive : 0 < amount) (value : Int64)
    : stepsDown amount value ≤ Int64.maxValue.toInt.toNat := by
  have amountPositive : 0 < amount.toInt := Int64.lt_iff_toInt_lt.mp positive
  have few : stepsDown amount value ≤ value.toInt.toNat :=
    (ceilDiv_le_iff_le_mul (by omega)).mpr (Nat.le_mul_of_pos_left _ (by omega))
  exact few.trans (Int.toNat_le_toNat (Int64.le_iff_toInt_le.mp value.le_maxValue))

theorem toInt_ofNat_stepsDown (positive : 0 < amount) (value : Int64)
    : (Int64.ofNat (stepsDown amount value)).toInt = stepsDown amount value :=
  Int64.toInt_ofNat_of_lt (Nat.lt_of_le_of_lt (stepsDown_le positive value) (by decide))

/-- The count of all steps is the exact quotient, rounded up. -/
theorem toInt_stepsDown (positive : 0 < amount) (value : Int64)
    : (Int64.ofNat (stepsDown amount value)).toInt
      = ⌈((max value.toInt 0 : ℤ) : ℚ) / amount.toInt⌉ := by
  have amountPositive : 0 < amount.toInt := Int64.lt_iff_toInt_lt.mp positive
  have exact : (amount.toInt.toNat : ℤ) = amount.toInt := Int.toNat_of_nonneg amountPositive.le
  rw [toInt_ofNat_stepsDown positive, ← Int.toNat_eq_max, ← exact, stepsDown,
    ← ceil_div_natCast (by omega), Int.natCast_ceil_eq_ceil (by positivity),
    Int.cast_natCast, Int.cast_natCast]

theorem toInt_stepsDown_one (value : Int64)
    : (Int64.ofNat (stepsDown 1 value)).toInt = max value.toInt 0 := by
  have one : (1 : Int64).toInt.toNat = 1 := rfl
  rw [toInt_ofNat_stepsDown (by decide), stepsDown, one, ceilDiv_one, Int.toNat_eq_max]

theorem toInt_stepsDown_two (value : Int64)
    : (Int64.ofNat (stepsDown 2 value)).toInt = ⌈((max value.toInt 0 : ℤ) : ℚ) / 2⌉ :=
  toInt_stepsDown (by decide) value

/-- Steps of one and of two are equally many up to one. -/
theorem stepsDown_one_eq_two_iff : stepsDown 1 value = stepsDown 2 value ↔ value ≤ 1 := by
  have one : (1 : Int64).toInt.toNat = 1 := rfl
  have two : (2 : Int64).toInt.toNat = 2 := rfl
  have few : value ≤ 1 ↔ value.toInt ≤ 1 := Int64.le_iff_toInt_le
  rw [stepsDown, stepsDown, one, two, ceilDiv_one, Nat.ceilDiv_eq_add_pred_div, few]
  omega

/-- Counts tell numbers of steps apart. -/
theorem ofNat_stepsDown_inj {other : Int64} (positive : 0 < amount) (positiveToo : 0 < other)
    : Int64.ofNat (stepsDown amount value) = Int64.ofNat (stepsDown other value)
      ↔ stepsDown amount value = stepsDown other value := by
  rw [← Int64.toInt_inj, toInt_ofNat_stepsDown positive, toInt_ofNat_stepsDown positiveToo,
    Int.natCast_inj]

-----------------------------------------------------------------------------------------
-- The loop
-----------------------------------------------------------------------------------------

/-- A step from a positive value comes back with the value less the amount. -/
def Lessens (step : Int64 → Exec Int64) (amount : Int64) (after : ProcessState → ProcessState)
    : Prop :=
  ∀ value process, 0 < value → step value process = (.ok (value - amount), after process)

theorem countdown_of_nonpos (step : Int64 → Exec Int64) (room : Nat) (done : value ≤ 0)
    (count : Int64) (process : ProcessState)
    : countdown step room value count process = (.ok count, process) := by
  unfold countdown
  rw [if_pos done]
  rfl

/-- The loop comes back with the number of its steps when there is room to count them.
Witness: induction on the steps that are left; together with the count so far they make up the
same number before and after each step.
-/
theorem countdown_of_lessens {step : Int64 → Exec Int64} {after : ProcessState → ProcessState}
    (positive : 0 < amount) (lessens : Lessens step amount after) {room : Nat}
    (fits : stepsDown amount value ≤ room) (count : Int64) (process : ProcessState)
    : countdown step room value count process
      = (.ok (count + .ofNat (stepsDown amount value)),
          after^[stepsDown amount value] process) := by
  induction left : stepsDown amount value generalizing value count process room with
  | zero =>
      rw [countdown_of_nonpos step room ((stepsDown_eq_zero_iff positive).mp left)]
      exact congrArg (fun answer => (Except.ok answer, process)) (Int64.add_zero count).symm
  | succ steps ih =>
      have running : ¬ value ≤ 0 := fun done => by
        rw [(stepsDown_eq_zero_iff positive).mpr done] at left
        cases left
      have more : 0 < value := Int64.not_le.mp running
      have next : stepsDown amount (value - amount) = steps := by
        rw [stepsDown_of_pos positive more] at left
        exact Nat.succ.inj left
      obtain ⟨rest, rfl⟩ : ∃ rest, room = rest + 1 := ⟨room - 1, by omega⟩
      have restFits : stepsDown amount (value - amount) ≤ rest := by omega
      have others := ih restFits (count + 1) (after process) next
      rw [countdown, if_neg running, Exec.bind_ok (lessens value process more), others,
        Function.iterate_succ_apply, Int64.ofNat_add, Int64.add_assoc, Int64.add_comm 1]
      rfl

end Body

end MutationTesting
