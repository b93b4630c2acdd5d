import MutationTesting.Execution.StatusCode
import MutationTesting.Sandbox.Probe
import MutationTesting.Text.Utf8

/-!
Running work so that its failures become results. Work that shares the process of its caller
has only its panics contained, and is found late after it has ended. Work in a process of its
own is stopped at its deadline, and neither a crash nor an exit reaches the caller: the process
reports a status only when the work answers, and everything else counts as a crash.
-/

namespace MutationTesting

/-- The time in nanoseconds that even the shortest run takes. -/
def shortestRun : Nat := 1000

/-- Runs work in the process of the caller. Its output is not captured. -/
def runInProcess (work : Work) (timeout : Duration) (process : ProcessState)
    : ExecutionResult × ProcessState :=
  let (outcome, after) := work process
  let runningTime := Duration.ofNanos (after.elapsed - process.elapsed + shortestRun)
  let result : ExecutionResult :=
    match outcome with
    | .ok status =>
        if runningTime.ble timeout then
          { status, runningTime }
        else
          { status := .timedout, runningTime }
    | .error (.panic payload) =>
        { status := .crashed, runningTime, stderr := payload.message }
    | .error _ => { status := .crashed, runningTime }
  (result, after)

/-- How a process ended. -/
inductive Ending where
  | exited (code : UInt8)
  | killed (signal : Signal)
  /-- The process is gone, but waiting for it failed. -/
  | lost
  /-- The process was stopped at its deadline. -/
  | overran
deriving DecidableEq, Repr

/-- What a process that ran work leaves behind. -/
structure Remains where
  ending : Ending
  /-- The bytes of the status that the work answered; none unless it answered. -/
  report : List UInt8 := []
  stdout : List UInt8
  stderr : List UInt8
  elapsed : Nat
deriving DecidableEq

namespace Remains

/-- The exit code after a panic. -/
def panicExitCode : UInt8 := 101

/-- What is left of a process after its work. Buffered output is written out unless the process
is killed; the message of a panic ends the error output.
-/
def ofOutcome (outcome : Except Stop ExecutionStatus) (process : ProcessState) : Remains :=
  let flushed : Remains :=
    {
      ending := .exited 0
      stdout := process.stdout.all
      stderr := process.stderr
      elapsed := process.elapsed
    }
  let cut : Remains := { flushed with stdout := process.stdout.written }
  match outcome with
  | .ok status => { flushed with report := StatusCode.encode status }
  | .error (.panic payload) =>
      {
        flushed with
        ending := .exited panicExitCode
        stderr := process.stderr ++ Utf8.encode (payload.message ++ "\n")
      }
  | .error (.exit code) => { flushed with ending := .exited code }
  | .error (.fault _) => { flushed with ending := .exited panicExitCode }
  | .error (.signal signal) => { cut with ending := .killed signal }
  | .error .namelessSignal => { cut with ending := .lost }
  | .error .deadline => { cut with ending := .overran }
  | .error .unfinished => { cut with ending := .overran }

/-- The status of a run by what is left of its process. -/
def status (remains : Remains) : ExecutionStatus :=
  match remains.ending with
  | .overran => .timedout
  | .killed _ => .crashed
  | .lost => .crashed
  | .exited code =>
      if code = 0 then
        match StatusCode.decode remains.report with
        | .ok (status, _) => status
        | .error _ => .crashed
      else
        .crashed

/-- What is added to the error output. -/
def note (remains : Remains) : String :=
  match remains.ending with
  | .killed signal => "killed by " ++ signal.name ++ "\n"
  | _ => ""

/-- The result of a run by what is left of its process. A run that overran took at least the time
that it had.
-/
def result (remains : Remains) (timeout : Duration) : ExecutionResult :=
  {
    status := remains.status
    runningTime :=
      if remains.ending = .overran then
        timeout.max (.ofNanos remains.elapsed)
      else
        .ofNanos remains.elapsed
    stdout := Utf8.decode remains.stdout
    stderr := Utf8.decode remains.stderr ++ remains.note
  }

end Remains

/-- A copy of a process: nothing written yet, its clock at zero, to be killed at the timeout. -/
def ProcessState.copied (timeout : Duration) (process : ProcessState) : ProcessState :=
  {
    process with
    stdout := {}
    stderr := []
    elapsed := 0
    deadline := some timeout.toNanos
  }

/-- Runs work in a copy of the process of the caller, which itself is not changed. -/
def runIsolated (work : Work) (timeout : Duration) (process : ProcessState) : ExecutionResult :=
  let started : Work := do
    Exec.wait shortestRun
    work
  let ran := started (process.copied timeout)
  (Remains.ofOutcome ran.1 ran.2).result timeout

end MutationTesting
