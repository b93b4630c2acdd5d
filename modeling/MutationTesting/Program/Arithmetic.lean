import MutationTesting.Program.Body

/-!
What operators compute. Wrapping arithmetic keeps the low 64 bits and divides toward zero;
checked arithmetic panics where the exact result does not fit.
-/

namespace MutationTesting

/-- One for a fact that holds and zero for one that does not. -/
def truth (fact : Bool) : Int64 := if fact then 1 else 0

/-- An exact result that fits into 64 bits. -/
def fit? (exact : Int) : Option Int64 :=
  if Int64.minValue.toInt ≤ exact ∧ exact ≤ Int64.maxValue.toInt then
    some (Int64.ofInt exact)
  else
    none

namespace Operator

/-- What an operator that compares answers; none for arithmetic. -/
def compare? (left right : Int64) : Operator → Option Int64
  | .eq => some (truth (left == right))
  | .lt => some (truth (left < right))
  | .le => some (truth (left ≤ right))
  | .gt => some (truth (left > right))
  | .ge => some (truth (left ≥ right))
  | _ => none

/-- Arithmetic that wraps around. -/
def wrapping (op : Operator) (left right : Int64) : Except Fault Int64 :=
  match op with
  | .add => .ok (left + right)
  | .sub => .ok (left - right)
  | .mul => .ok (left * right)
  | .div => if right = 0 then .error (.abort "division by zero") else .ok (left / right)
  | _ => .ok ((op.compare? left right).getD 0)

/-- An exact result, or the panic of an operation that overflows. -/
def checkedResult (exact : Int) (operation : String) : Except PanicPayload Int64 :=
  match fit? exact with
  | some result => .ok result
  | none => .error (.text ("attempt to " ++ operation ++ " with overflow"))

/-- Arithmetic that panics where the exact result does not fit. -/
def checked (op : Operator) (left right : Int64) : Except PanicPayload Int64 :=
  match op with
  | .add => checkedResult (left.toInt + right.toInt) "add"
  | .sub => checkedResult (left.toInt - right.toInt) "subtract"
  | .mul => checkedResult (left.toInt * right.toInt) "multiply"
  | .div =>
      if right = 0 then
        .error (.text "attempt to divide by zero")
      else
        checkedResult (left.toInt.tdiv right.toInt) "divide"
  | _ => .ok ((op.compare? left right).getD 0)

end Operator

end MutationTesting
