import MutationTesting.Proofs.Program.Output
import MutationTesting.Proofs.Sandbox.Endings
import MutationTesting.Proofs.Sandbox.Steadiness
import MutationTesting.Proofs.Text.LossyReading

/-! What gets out of a process of its own. Its status is the one that the work answers, and a crash
after every other way to end; what the work wrote before it answered or panicked is read in full.
-/

namespace MutationTesting

-----------------------------------------------------------------------------------------
-- The output
-----------------------------------------------------------------------------------------

namespace Remains

theorem output_of_ok (status : ExecutionStatus) (process : ProcessState) (timeout : Duration)
    : let result := (ofOutcome (.ok status) process).result timeout
      result.stdout = Utf8.decode process.stdout.all
      ∧ result.stderr = Utf8.decode process.stderr := by
  simp only [ofOutcome, Remains.result, note, String.append_empty, and_self]

/-- The message of a panic is read as it is, whatever was written before it. -/
theorem output_of_panic (payload : PanicPayload) (process : ProcessState) (timeout : Duration)
    : let result := (ofOutcome (.error (.panic payload)) process).result timeout
      result.stdout = Utf8.decode process.stdout.all
      ∧ result.stderr = Utf8.decode process.stderr ++ (payload.message ++ "\n") := by
  have something : payload.message ++ "\n" ≠ "" := by simp
  simp only [ofOutcome, Remains.result, note, String.append_empty,
    Utf8.decode_append_encode something, and_self]

end Remains

-----------------------------------------------------------------------------------------
-- Runs in a process of their own
-----------------------------------------------------------------------------------------

theorem Work.started_congruent {alike : (α : Type) → Exec α → Exec α → Prop}
    (congruence : Exec.Congruence alike) {work : Work} (runs : alike ExecutionStatus work work)
    : alike ExecutionStatus work.started work.started :=
  congruence.bind (congruence.wait shortestRun) fun _ => runs

/-- The writes of a trial can be listed, whatever process it runs in. -/
theorem Trial.exists_writes (trial : Trial) (process : ProcessState)
    : ∃ writes, Exec.Writes trial.work.started process writes :=
  Work.started_congruent Exec.Writes.congruence (trial.work_congruent Exec.Writes.congruence)
    process

section Runs

variable {work : Work} {timeout : Duration} {process : ProcessState} {writes : List Write}
  {status : ExecutionStatus} {payload : PanicPayload}

/-- The copy of a process has written nothing of its own at first. -/
theorem output_started (wrote : Exec.Writes work.started (process.copied timeout) writes)
    : let after := (work.started (process.copied timeout)).2
      after.stdout.all = bytesTo .stdout writes ∧ after.stderr = bytesTo .stderr writes :=
  wrote.output

theorem runIsolated_answered_output
    (answered : (work.started (process.copied timeout)).1 = .ok status)
    (wrote : Exec.Writes work.started (process.copied timeout) writes)
    : let result := runIsolated work timeout process
      result.stdout = Utf8.decode (bytesTo .stdout writes)
      ∧ result.stderr = Utf8.decode (bytesTo .stderr writes) := by
  obtain ⟨toStdout, toStderr⟩ := output_started wrote
  rw [runIsolated_eq, answered, ← toStdout, ← toStderr]
  exact Remains.output_of_ok status _ timeout

theorem runIsolated_panicked_output
    (panicked : (work.started (process.copied timeout)).1 = .error (.panic payload))
    (wrote : Exec.Writes work.started (process.copied timeout) writes)
    : let result := runIsolated work timeout process
      result.stdout = Utf8.decode (bytesTo .stdout writes)
      ∧ result.stderr = Utf8.decode (bytesTo .stderr writes) ++ (payload.message ++ "\n") := by
  obtain ⟨toStdout, toStderr⟩ := output_started wrote
  rw [runIsolated_eq, panicked, ← toStdout, ← toStderr]
  exact Remains.output_of_panic payload _ timeout

end Runs

/-- Whatever is to be written before the work ends, and however it is to end, there is work that
does just that when it has the time to start.
-/
theorem Exec.writes_then (writes : List Write) (ending : Work) {timeout : Duration}
    (quiet : ∀ process, (ending process).2 = process) (time : shortestRun ≤ timeout.toNanos)
    (process : ProcessState)
    : Exec.Writes (Work.started (Exec.writeAll writes >>= fun _ => ending))
        (process.copied timeout) writes := by
  obtain ⟨started, starts⟩
      : ∃ started, Exec.wait shortestRun (process.copied timeout) = (.ok (), started) := by
    have spare : ¬ shortestRun > timeout.toNanos := Nat.not_lt.mpr time
    simp only [Exec.wait_apply, ProcessState.copied, Nat.zero_add, if_neg spare]
    exact ⟨_, rfl⟩
  obtain ⟨written, wrote⟩ := Exec.writeAll_answers writes started
  have ends : Exec.Writes ending written [] :=
    .nothing (by rw [quiet written]) (by rw [quiet written])
  have waits := Exec.wait_output shortestRun (process.copied timeout)
  have inside : Exec.Writes (Exec.writeAll writes >>= fun _ => ending) started (writes ++ []) :=
    .bind wrote (Exec.writes_writeAll writes started) ends
  rw [List.append_nil] at inside
  exact .bind starts (.nothing waits.1 waits.2) inside

/-- Work that runs in a process of its own gets out what it answers and what it writes.

A status that it answers is the status of the run. A panic, an exit with any code and a signal of
any kind are crashes, so that no status other than a crash can come from anything but an answer.
What it wrote before an answer or a panic is read in full and in order, and the message of a panic
follows on the error output. Bytes are read as the characters that they spell, with a replacement
for each broken part, so that text among them is kept as it is.
-/
theorem runIsolated_survives (work : Work) (timeout : Duration) (process : ProcessState)
    : let outcome := (work.started (process.copied timeout)).1
      let result := runIsolated work timeout process
      ((∀ status, outcome = .ok status → result.status = status)
          ∧ (∀ payload, outcome = .error (.panic payload) → result.status = .crashed)
          ∧ (∀ code : Int,
              outcome = .error (.exit (.ofNat (code.emod 256).toNat)) → result.status = .crashed)
          ∧ (∀ signal, outcome = .error (.signal signal) → result.status = .crashed)
          ∧ (outcome = .error .namelessSignal → result.status = .crashed)
          ∧ (∀ status,
              Exec.Ends outcome
              → status ≠ .crashed
              → result.status = status
              → outcome = .ok status))
        ∧ (∀ writes,
            Exec.Writes work.started (process.copied timeout) writes
            → let stdout := Utf8.decode (bytesTo .stdout writes)
              let stderr := Utf8.decode (bytesTo .stderr writes)
              (∀ status,
                  outcome = .ok status → result.stdout = stdout ∧ result.stderr = stderr)
                ∧ (∀ payload,
                    outcome = .error (.panic payload)
                    → result.stdout = stdout
                      ∧ result.stderr = stderr ++ (payload.message ++ "\n")))
        ∧ (∀ bytes text, Utf8.Reads bytes text.toList ↔ Utf8.decode bytes = text)
        ∧ (∀ before text after,
            text ≠ ""
            → Utf8.decode (before ++ Utf8.encode text ++ after)
                = Utf8.decode before ++ text ++ Utf8.decode after) := by
  intro outcome result
  refine ⟨⟨?_, ?_, ?_, ?_, ?_, ?_⟩, ?_, ?_, ?_⟩
  · intro status answered
    exact runIsolated_answered answered
  · intro payload panicked
    exact runIsolated_stopped panicked ⟨by simp, by simp⟩
  · intro code exited
    exact runIsolated_stopped exited ⟨by simp, by simp⟩
  · intro signal killed
    exact runIsolated_stopped killed ⟨by simp, by simp⟩
  · intro killed
    exact runIsolated_stopped killed ⟨by simp, by simp⟩
  · intro status ends clean reported
    exact Remains.eq_ok_of_status ends reported clean
  · intro writes wrote stdout stderr
    refine ⟨?_, ?_⟩
    · intro status answered
      exact runIsolated_answered_output answered wrote
    · intro payload panicked
      exact runIsolated_panicked_output panicked wrote
  · intro bytes text
    exact Utf8.reads_iff
  · intro before text after something
    exact Utf8.decode_around something before after

/-- A character that is written in two parts, and a byte on the error output that is no text. -/
def tornWrites : List Write :=
  [{ stream := .stdout, bytes := [0xE2, 0x82] },
    { stream := .stderr, bytes := [0xFF] },
    { stream := .stdout, bytes := [0xAC] }]

/-- A panic in the middle of a line loses nothing, and an exit with a code that is a multiple of 256
does not pass for success.
-/
theorem torn_runIsolated_survives
    : (let work : Work := do
          Exec.writeAll tornWrites
          Exec.panicText "Boom!"
        let result := runIsolated work (.ofMillis 5) {}
        result.status = .crashed ∧ result.stdout = "€" ∧ result.stderr = "\uFFFDBoom!\n")
      ∧ (let work : Work := do
            Exec.writeAll tornWrites
            Exec.stop (.exit (.ofNat ((512 : Int).emod 256).toNat))
          (runIsolated work (.ofMillis 5) {}).status = .crashed) := by
  have euro : Utf8.decode (bytesTo .stdout tornWrites) = "€" := by
    have spelled : bytesTo .stdout tornWrites = Utf8.encode "€" := by
      rw [Utf8.encode_eq]
      rfl
    rw [spelled, Utf8.decode_encode]
  have stray : Utf8.decode (bytesTo .stderr tornWrites) = "\uFFFD" := by
    have byte : bytesTo .stderr tornWrites = [0xFF] ++ [] := rfl
    have broken : Utf8.Broken [0xFF] [] := Utf8.broken_of_nothing rfl
    exact Utf8.reads_iff.mp (.next byte (.broken broken) .done)
  have time : shortestRun ≤ (Duration.ofMillis 5).toNanos := by decide
  refine ⟨?_, ?_⟩
  · intro work result
    have wrote := Exec.writes_then tornWrites (Exec.panicText "Boom!") (fun _ => rfl) time {}
    obtain ⟨⟨-, crashed, -⟩, output, -⟩ := runIsolated_survives work (.ofMillis 5) {}
    obtain ⟨stdout, stderr⟩ := (output tornWrites wrote).2 (.text "Boom!") rfl
    refine ⟨crashed (.text "Boom!") rfl, ?_, ?_⟩
    · rw [stdout, euro]
    · rw [stderr, stray]
      rfl
  · intro work
    obtain ⟨⟨-, -, exits, -⟩, -⟩ := runIsolated_survives work (.ofMillis 5) {}
    exact exits 512 rfl

end MutationTesting
