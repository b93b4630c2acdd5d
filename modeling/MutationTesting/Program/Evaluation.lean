import MutationTesting.Program.Arithmetic

/-!
Running a body. What calls do is a parameter, so that the meaning of a body depends on other
code only through it.
-/

namespace MutationTesting

/-- What calls do, given their target and arguments. -/
abbrev CallHandler : Type := CallTarget → List Int64 → Exec Int64

namespace Body

/-- The argument at an index; a missing one is a panic. -/
def operandAt (args : List Int64) (index : Nat) : Exec Int64 :=
  match args[index]? with
  | some value => pure value
  | none =>
      Exec.panicText
        ("index out of bounds: the len is " ++ toString args.length ++ " but the index is "
          ++ toString index)

/-- The number of a function as it is reported: zero for whatever is no 32-bit number. -/
def functionNumber (value : Int64) : Nat :=
  if 0 ≤ value.toInt ∧ value.toInt < UInt32.size then value.toInt.toNat else 0

/-- Reports the first argument to the recorder of the process. -/
def record (args : List Int64) (event : Nat → CallEvent) : Exec Int64 := do
  let value ← operandAt args 0
  Exec.change fun process =>
    { process with recorder := process.recorder.step (event (functionNumber value)) }
  pure 0

/-- Takes steps while the value is positive and counts them. The count is itself a 64-bit
integer: a step for which it has no room left panics.
-/
def countdown (step : Int64 → Exec Int64) : (room : Nat) → (value count : Int64) → Exec Int64
  | room, value, count =>
      if value ≤ 0 then
        pure count
      else
        match room with
        | 0 => do
            let _ ← step value
            Exec.panicText "attempt to add with overflow"
        | room + 1 => do
            let next ← step value
            countdown step room next (count + 1)

mutual

/-- The value of a body for the arguments of its function. -/
def eval (call : CallHandler) (args : List Int64) : Body → Exec Int64
  | .const value => pure value
  | .argCount => pure (Int64.ofNat args.length)
  | .arg index =>
      match args[index]? with
      | some value => pure value
      | none => Exec.fault (.abort ("missing argument " ++ toString index))
  | .operand index => operandAt args index
  | .wrapping op left right => do
      let left ← eval call args left
      let right ← eval call args right
      match op.wrapping left right with
      | .ok value => pure value
      | .error fault => Exec.fault fault
  | .checked op left right => do
      let left ← eval call args left
      let right ← eval call args right
      match op.checked left right with
      | .ok value => pure value
      | .error payload => Exec.stop (.panic payload)
  | .select condition yes no => do
      let value ← eval call args condition
      if value ≠ 0 then eval call args yes else eval call args no
  | .call name callArgs => do
      let values ← evalAll call args callArgs
      call (.symbol name) values
  | .callAddress raw callArgs => do
      let values ← evalAll call args callArgs
      if raw = 0 then
        Exec.fault (.abort "null address")
      else
        call (.address raw) values
  | .sequence parts => do
      let values ← evalAll call args parts
      pure (values.getLast?.getD 0)
  | .recover body fallback => do
      match ← Exec.catchFault (eval call args body) with
      | .ok value => pure value
      | .error _ => eval call args fallback
  | .cleanup body last => do
      let outcome ← Exec.catchFault (eval call args body)
      let _ ← eval call args last
      match outcome with
      | .ok value => pure value
      | .error fault => Exec.fault fault
  | .countSteps start step => do
      let value ← eval call args start
      countdown (fun value => eval call [value] step) Int64.maxValue.toInt.toNat value 0
  | .abort reason => Exec.fault (.abort reason)
  | .panic payload => Exec.stop (.panic payload)
  | .wait nanos => do
      Exec.wait nanos
      pure 0
  | .write stream bytes => do
      Exec.write stream bytes
      pure 0
  | .exit code => Exec.stop (.exit code)
  | .raise signal => do
      Exec.raise signal
      pure 0
  | .recordEnter => record args .enter
  | .recordLeave => record args .leave

def evalAll (call : CallHandler) (args : List Int64) : List Body → Exec (List Int64)
  | [] => pure []
  | body :: rest => do
      let value ← eval call args body
      let values ← evalAll call args rest
      pure (value :: values)

end

end Body

end MutationTesting
