import MutationTesting.Proofs.Configuration.Timeouts
import MutationTesting.Proofs.Sandbox.Endings
import MutationTesting.Proofs.Sandbox.Steadiness

/-! Work that ends before its deadline. Whether it shares the process of its host or has one of its
own, a run of it has the same status: the one that the work answers, or a crash after a panic.
-/

namespace MutationTesting

/-- The status of work that runs as long as it wants: what it answers, and a crash otherwise. What
was done before in its process plays no part.
-/
def Work.verdict (work : Work) : ExecutionStatus :=
  match (work {}).1 with
  | .ok status => status
  | .error _ => .crashed

/-- The work answers or panics, within the given time for a run. It does not exit, no signal ends
it, and it does not go on for ever.
-/
structure Work.EndsWithin (work : Work) (timeout : Duration) : Prop where
  ends
    : (∃ status, (work {}).1 = .ok status)
      ∨ ∃ payload, (work {}).1 = .error (.panic payload)
  inTime : (work {}).2.elapsed + shortestRun ≤ timeout.toNanos

-----------------------------------------------------------------------------------------
-- Runs that share the process of the host
-----------------------------------------------------------------------------------------

/-- Work that ends in time is not found late. -/
theorem runInProcess_status {work : Work} {timeout : Duration} (ends : work.EndsWithin timeout)
    {process : ProcessState}
    (runs : Exec.Corresponds (ProcessState.Apart process.elapsed 0) work work)
    (endless : process.deadline = none)
    : (runInProcess work timeout process).1.status = work.verdict := by
  have both : ({} : ProcessState).deadline = none ∧ process.deadline = none := ⟨rfl, endless⟩
  rw [← (runInProcess_agrees timeout runs both).1]
  have inTime := Duration.ofNanos_ble ends.inTime
  unfold runInProcess Work.verdict
  rcases ran : work {} with ⟨outcome, after⟩
  rw [ran] at inTime
  cases outcome with
  | ok status => simp [inTime]
  | error reason => cases reason <;> rfl

-----------------------------------------------------------------------------------------
-- Runs in a process of their own
-----------------------------------------------------------------------------------------

/-- The first process may run for ever and the second one has a deadline. The clock of the second
process is ahead by the given time.
-/
structure ProcessState.Timed (ahead deadline : Nat) (first second : ProcessState) : Prop where
  endless : first.deadline = none
  deadline : second.deadline = some deadline
  clocks : second.elapsed = first.elapsed + ahead

/-- A computation in a process that may run for ever, beside one in a process with a deadline: they
end in the same way, unless the first one takes longer than the second one may.
-/
structure Exec.InTime (ahead deadline : Nat) (left right : Exec α) : Prop where
  goesOn
    : ∀ process,
        process.deadline = none
        → (left process).2.deadline = none ∧ process.elapsed ≤ (left process).2.elapsed
  agrees
    : ∀ first second,
        ProcessState.Timed ahead deadline first second
        → deadline < (left first).2.elapsed + ahead
          ∨ (left first).1 = (right second).1
            ∧ ProcessState.Timed ahead deadline (left first).2 (right second).2

namespace Exec

variable {ahead deadline : Nat}

/-- What leaves clocks and deadlines as they are takes no time. -/
theorem InTime.of_untimed {left right : Exec α}
    (same : ∀ first second, (left first).1 = (right second).1)
    (still
      : ∀ process,
          (left process).2.deadline = process.deadline
          ∧ (left process).2.elapsed = process.elapsed)
    (stillToo
      : ∀ process,
          (right process).2.deadline = process.deadline
          ∧ (right process).2.elapsed = process.elapsed)
    : InTime ahead deadline left right where
  goesOn process endless :=
    ⟨(still process).1.trans endless, Nat.le_of_eq (still process).2.symm⟩
  agrees first second timed := by
    refine .inr ⟨same first second, ?_, ?_, ?_⟩
    · rw [(still first).1, timed.endless]
    · rw [(stillToo second).1, timed.deadline]
    · rw [(still first).2, (stillToo second).2, timed.clocks]

/-- Computations in sequence: once the first part takes too long, so does the whole. -/
theorem InTime.bind {left right : Exec α} {next other : α → Exec β}
    (parts : InTime ahead deadline left right)
    (rest : ∀ answer, InTime ahead deadline (next answer) (other answer))
    : InTime ahead deadline (left >>= next) (right >>= other) where
  goesOn process endless := by
    obtain ⟨still, later⟩ := parts.goesOn process endless
    rw [bind_apply]
    rcases ran : left process with ⟨outcome, after⟩
    rw [ran] at still later
    cases outcome with
    | error reason => exact ⟨still, later⟩
    | ok answer =>
        obtain ⟨stillThen, laterThen⟩ := (rest answer).goesOn after still
        exact ⟨stillThen, Nat.le_trans later laterThen⟩
  agrees first second timed := by
    have still := (parts.goesOn first timed.endless).1
    rw [bind_apply, bind_apply]
    rcases ran : left first with ⟨outcome, process⟩
    rcases ranToo : right second with ⟨outcome', process'⟩
    have agrees := parts.agrees first second timed
    rw [ran] at still
    rw [ran, ranToo] at agrees
    rcases agrees with tooLong | ⟨same, after⟩
    · -- The second process may be killed here, but the first one only gets later.
      left
      cases outcome with
      | error reason => exact tooLong
      | ok answer =>
          have later := ((rest answer).goesOn process still).2
          dsimp only at later tooLong ⊢
          omega
    · subst same
      cases outcome with
      | error reason => exact .inr ⟨rfl, after⟩
      | ok answer => exact (rest answer).agrees process process' after

theorem InTime.catchFault {left right : Exec α} (parts : InTime ahead deadline left right)
    : InTime ahead deadline (Exec.catchFault left) (Exec.catchFault right) where
  goesOn process endless := by
    rw [catchFault_apply]
    exact parts.goesOn process endless
  agrees first second timed := by
    rw [catchFault_apply, catchFault_apply]
    rcases parts.agrees first second timed with tooLong | ⟨same, after⟩
    · exact .inl tooLong
    · exact .inr ⟨congrArg caught same, after⟩

/-- Waiting is where a process may be killed: then the other one has waited for too long. -/
theorem InTime.wait (nanos : Nat) : InTime ahead deadline (Exec.wait nanos) (Exec.wait nanos) where
  goesOn process endless := by
    simp only [wait_apply, endless]
    exact ⟨trivial, Nat.le_add_right _ _⟩
  agrees first second timed := by
    have clocks := timed.clocks
    simp only [wait_apply, timed.endless, timed.deadline]
    split
    · left
      omega
    · right
      refine ⟨rfl, rfl, rfl, ?_⟩
      dsimp only
      omega

theorem InTime.congruence (ahead deadline : Nat)
    : Congruence fun _ left right => InTime ahead deadline left right where
  pure _ := .of_untimed (fun _ _ => rfl) (fun _ => ⟨rfl, rfl⟩) (fun _ => ⟨rfl, rfl⟩)
  stop _ := .of_untimed (fun _ _ => rfl) (fun _ => ⟨rfl, rfl⟩) (fun _ => ⟨rfl, rfl⟩)
  bind := .bind
  catchFault := .catchFault
  record _ := .of_untimed (fun _ _ => rfl) (fun _ => ⟨rfl, rfl⟩) (fun _ => ⟨rfl, rfl⟩)
  write stream _ := by
    cases stream <;>
      exact .of_untimed (fun _ _ => rfl) (fun _ => ⟨rfl, rfl⟩) (fun _ => ⟨rfl, rfl⟩)
  wait := .wait

end Exec

/-- Work that ends in time is not killed, and the status that it answers crosses the border between
the processes.
-/
theorem runIsolated_status {work : Work} {timeout : Duration} (ends : work.EndsWithin timeout)
    (runs : Exec.InTime shortestRun timeout.toNanos work work) (process : ProcessState)
    : (runIsolated work timeout process).status = work.verdict := by
  let ready : ProcessState := { process.copied timeout with elapsed := shortestRun }
  have inTime := ends.inTime
  have starts : Exec.wait shortestRun (process.copied timeout) = (.ok (), ready) := by
    have spare : ¬ shortestRun > timeout.toNanos := by omega
    simp only [Exec.wait_apply, ProcessState.copied, Nat.zero_add, if_neg spare, ready]
  -- The copy is ahead of a fresh process by the time that it took to start.
  have timed : ProcessState.Timed shortestRun timeout.toNanos {} ready :=
    ⟨rfl, rfl, (Nat.zero_add _).symm⟩
  have same : (work {}).1 = (work ready).1 := by
    rcases runs.agrees {} ready timed with tooLong | ⟨same, -⟩
    · omega
    · exact same
  have outcome : (work.started (process.copied timeout)).1 = (work {}).1 := by
    rw [same]
    exact congrArg Prod.fst (Exec.bind_ok starts fun _ => work)
  unfold Work.verdict
  rcases ends.ends with ⟨status, answered⟩ | ⟨payload, panicked⟩
  · rw [answered]
    exact runIsolated_answered (outcome.trans answered)
  · rw [panicked]
    exact runIsolated_stopped (outcome.trans panicked) ⟨by simp, by simp⟩

-----------------------------------------------------------------------------------------
-- Both kinds of sandboxes
-----------------------------------------------------------------------------------------

/-- A trial that ends in time has the same status in sandboxes of both kinds. -/
theorem Sandbox.ofKind_status (kind : SandboxKind) {trial : Trial} {timeout : Duration}
    (ends : trial.work.EndsWithin timeout) {host : Host} (endless : host.process.deadline = none)
    : ∃ result,
        ((Sandbox.ofKind kind).run trial timeout host).1 = .ok result
        ∧ result.status = trial.work.verdict := by
  cases kind with
  | fork =>
      exact ⟨_, rfl,
        runIsolated_status ends (trial.work_congruent (Exec.InTime.congruence _ _)) host.process⟩
  | null =>
      exact ⟨_, rfl,
        runInProcess_status ends
          (trial.work_congruent (ProcessState.Apart.respected _ _).congruence) endless⟩

end MutationTesting
