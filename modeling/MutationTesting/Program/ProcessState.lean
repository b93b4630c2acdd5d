import MutationTesting.Program.Fault
import MutationTesting.Program.LineBuffer
import MutationTesting.Program.Signal
import MutationTesting.Recording.CallRecorder

/-!
The process that code runs in, and computations that may stop early. A computation either
answers or stops for one of several reasons; what it has done to its process by then remains.
-/

namespace MutationTesting

/-- What running code can see and change. Time is counted in nanoseconds and passes only while
code waits.
-/
structure ProcessState where
  recorder : CallRecorder := { mapping := [0], stack := [] }
  /-- How many units of work have counted themselves. -/
  counted : Nat := 0
  stdout : LineBuffer := {}
  stderr : List UInt8 := []
  elapsed : Nat := 0
  /-- When the process is going to be killed, if ever. -/
  deadline : Option Nat := none
deriving DecidableEq, Inhabited

/-- Why a computation stopped without an answer. -/
inductive Stop where
  | fault (fault : Fault)
  | panic (payload : PanicPayload)
  | exit (code : UInt8)
  | signal (signal : Signal)
  /-- A signal without a name ended the process, such as one for real-time use. -/
  | namelessSignal
  /-- The process was killed at its deadline. -/
  | deadline
  /-- The computation would go on for ever, or deeper than calls may nest. -/
  | unfinished
deriving DecidableEq, Repr

/-- A computation in a process. -/
abbrev Exec (α : Type) : Type := ExceptT Stop (StateM ProcessState) α

inductive OutputStream where
  | stdout
  | stderr
deriving DecidableEq, Repr

namespace Exec

def stop (reason : Stop) : Exec α := throw reason

def fault (fault : Fault) : Exec α := stop (.fault fault)

/-- Stops with a panic that carries a text. -/
def panicText (message : String) : Exec α := stop (.panic (.text message))

def change (f : ProcessState → ProcessState) : Exec Unit := modify f

/-- The answer of a computation or its fault. Any other way to stop goes on. -/
def catchFault (computation : Exec α) : Exec (Except Fault α) := fun process =>
  match computation process with
  | (.ok answer, process) => (.ok (.ok answer), process)
  | (.error (.fault fault), process) => (.ok (.error fault), process)
  | (.error reason, process) => (.error reason, process)

def write (stream : OutputStream) (bytes : List UInt8) : Exec Unit :=
  match stream with
  | .stdout => change fun process => { process with stdout := process.stdout.write bytes }
  | .stderr => change fun process => { process with stderr := process.stderr ++ bytes }

/-- Lets time pass. A process that would pass its deadline is killed there. -/
def wait (nanos : Nat) : Exec Unit := do
  let process ← get
  let finish := process.elapsed + nanos
  match process.deadline with
  | some deadline =>
      if finish > deadline then
        set { process with elapsed := deadline }
        stop .deadline
      else
        set { process with elapsed := finish }
  | none => set { process with elapsed := finish }

/-- Raises a signal that nobody handles. -/
def raise (signal : Signal) : Exec Unit :=
  match signal.disposition with
  | .terminate => stop (.signal signal)
  | .suspend => stop .unfinished
  | .ignore => pure ()

end Exec

end MutationTesting
