import MutationTesting.Sandbox.Containment

/-! How work ended in a process of its own, as its host sees it. An answer comes through as it is.
Whatever else ends the work leaves no report behind, or a bad exit code, and is a crash.
-/

namespace MutationTesting

/-- Work as it runs in a process of its own, where even the shortest run takes its time. -/
def Work.started (work : Work) : Work := do
  Exec.wait shortestRun
  work

/-- A run that came to its end before its deadline, and would not have gone on for ever. -/
structure Exec.Ends (outcome : Except Stop ExecutionStatus) : Prop where
  inTime : outcome ≠ .error .deadline
  finished : outcome ≠ .error .unfinished

-----------------------------------------------------------------------------------------
-- What is left of a process
-----------------------------------------------------------------------------------------

namespace Remains

variable {status : ExecutionStatus} {process : ProcessState}

theorem status_of_ok : (ofOutcome (.ok status) process).status = status := by
  simp only [ofOutcome, Remains.status, if_true, StatusCode.decode_encode]

/-- Without an answer nothing is reported, so that even a process that exits well has crashed. -/
theorem status_of_error {reason : Stop} (ends : Exec.Ends (.error reason))
    : (ofOutcome (.error reason) process).status = .crashed := by
  have nothing : StatusCode.decode [] = .error .unexpectedEnd := rfl
  have panics : ¬ panicExitCode = 0 := by decide
  cases reason with
  | fault => simp only [ofOutcome, Remains.status, panics, if_false]
  | panic => simp only [ofOutcome, Remains.status, panics, if_false]
  | exit code => simp only [ofOutcome, Remains.status, nothing, ite_self]
  | signal => rfl
  | namelessSignal => rfl
  | deadline => exact absurd rfl ends.inTime
  | unfinished => exact absurd rfl ends.finished

/-- A status other than a crash is what the work answered. -/
theorem eq_ok_of_status {outcome : Except Stop ExecutionStatus} (ends : Exec.Ends outcome)
    (reported : (ofOutcome outcome process).status = status) (clean : status ≠ .crashed)
    : outcome = .ok status := by
  cases outcome with
  | ok answer =>
      rw [status_of_ok] at reported
      rw [reported]
  | error reason =>
      rw [status_of_error ends] at reported
      exact absurd reported.symm clean

end Remains

-----------------------------------------------------------------------------------------
-- Runs
-----------------------------------------------------------------------------------------

/-- What a process leaves behind is all that a run shows of it. -/
theorem runIsolated_eq (work : Work) (timeout : Duration) (process : ProcessState)
    : runIsolated work timeout process
      = (Remains.ofOutcome (work.started (process.copied timeout)).1
          (work.started (process.copied timeout)).2).result timeout :=
  rfl

section Runs

variable {work : Work} {timeout : Duration} {process : ProcessState} {status : ExecutionStatus}
  {reason : Stop}

theorem runIsolated_answered (answered : (work.started (process.copied timeout)).1 = .ok status)
    : (runIsolated work timeout process).status = status := by
  rw [runIsolated_eq, answered]
  exact Remains.status_of_ok

theorem runIsolated_stopped (stopped : (work.started (process.copied timeout)).1 = .error reason)
    (ends : Exec.Ends (.error reason))
    : (runIsolated work timeout process).status = .crashed := by
  rw [runIsolated_eq, stopped]
  exact Remains.status_of_error ends

end Runs

end MutationTesting
