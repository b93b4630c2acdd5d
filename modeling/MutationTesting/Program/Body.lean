import MutationTesting.Program.ProcessState

/-!
The code of functions. A body computes a 64-bit integer from the arguments of its function; it
reaches other code through calls only, by symbol or by address.
-/

namespace MutationTesting

/-- Operators on two integers. Comparisons answer one or zero. -/
inductive Operator where
  | add | sub | mul | div | eq | lt | le | gt | ge
deriving DecidableEq, Repr

/-- The code of a function. -/
inductive Body where
  | const (value : Int64)
  /-- The number of arguments. -/
  | argCount
  /-- An argument; a missing one is a fault. -/
  | arg (index : Nat)
  /-- An argument; a missing one is a panic. -/
  | operand (index : Nat)
  /-- Arithmetic that wraps around; division by zero is a fault. -/
  | wrapping (op : Operator) (left right : Body)
  /-- Arithmetic that panics on overflow and on division by zero. -/
  | checked (op : Operator) (left right : Body)
  /-- The second body unless the condition is zero, and the third then. -/
  | select (condition yes no : Body)
  | call (name : String) (args : List Body)
  | callAddress (raw : Nat) (args : List Body)
  /-- All parts in order; the value of the last, zero when there is none. -/
  | sequence (parts : List Body)
  /-- The second body takes over when the first one faults. -/
  | recover (body fallback : Body)
  /-- The second body runs also after a fault of the first one, whose outcome counts. -/
  | cleanup (body last : Body)
  /-- How often the step, given the value so far as its argument, has to be taken until the
  value is no longer positive.
  -/
  | countSteps (start step : Body)
  | abort (reason : String)
  | panic (payload : PanicPayload)
  | wait (nanos : Nat)
  | write (stream : OutputStream) (bytes : List UInt8)
  | exit (code : UInt8)
  | raise (signal : Signal)
  /-- Reports that the function numbered by the first argument is entered. -/
  | recordEnter
  /-- Reports that the function numbered by the first argument is left. -/
  | recordLeave

namespace Body

instance : Inhabited Body := ⟨.const 0⟩

end Body

/-- What a call goes to. -/
inductive CallTarget where
  | symbol (name : String)
  | address (raw : Nat)
deriving DecidableEq, Repr

end MutationTesting
