import MutationTesting.Proofs.Program.Correspondence

/-! What code writes. The writes of a run are listed in their order, whichever parts of the code
made them; the output of the process then holds their bytes one after the other, some of them still
waiting for the end of their line.
-/

namespace MutationTesting

-----------------------------------------------------------------------------------------
-- Buffered lines
-----------------------------------------------------------------------------------------

namespace LineBuffer

theorem splitLines_append (bytes : List UInt8)
    : (splitLines bytes).1 ++ (splitLines bytes).2 = bytes := by
  have suffix : (bytes.reverse.takeWhile (· ≠ newline)).reverse <:+ bytes := by
    have start := List.takeWhile_prefix (l := bytes.reverse) (· ≠ newline)
    rw [← List.reverse_suffix] at start
    simpa using start
  exact List.suffix_iff_eq_append.mp suffix

/-- What is kept waiting or passed on by itself comes after what waits already. -/
theorem all_hold (buffer : LineBuffer) (bytes : List UInt8)
    : (buffer.hold bytes).all = buffer.all ++ bytes := by
  dsimp only [hold]
  split
  next large =>
    split
    next full => simp only [all, flush, List.append_nil]
    next roomy =>
      -- Bytes that fill the buffer have room only when nothing waits.
      have nothing : buffer.pending = [] := List.length_eq_zero_iff.mp (by omega)
      simp only [all, nothing, List.append_nil]
  next small =>
    split
    next full => simp only [all, flush, List.nil_append]
    next roomy => simp only [all, List.append_assoc]

/-- Whether bytes are passed on or wait, they come after all earlier ones. -/
theorem all_write (buffer : LineBuffer) (bytes : List UInt8)
    : (buffer.write bytes).all = buffer.all ++ bytes := by
  have whole := splitLines_append bytes
  unfold write
  split
  next rest same =>
    rw [same] at whole
    rw [all_hold, ← whole, List.nil_append]
  next lines rest _ same =>
    rw [same] at whole
    rw [all_hold, ← whole, all, all, List.append_nil, List.append_assoc _ lines]

end LineBuffer

-----------------------------------------------------------------------------------------
-- Writes in their order
-----------------------------------------------------------------------------------------

/-- Bytes that are written at once, and where to. -/
structure Write where
  stream : OutputStream
  bytes : List UInt8
deriving Repr

/-- All bytes that are written to a stream, in order. -/
def bytesTo (stream : OutputStream) (writes : List Write) : List UInt8 :=
  writes.flatMap fun write => if write.stream = stream then write.bytes else []

theorem bytesTo_append (stream : OutputStream) (writes others : List Write)
    : bytesTo stream (writes ++ others) = bytesTo stream writes ++ bytesTo stream others :=
  List.flatMap_append

namespace Exec

/-- A computation in a process makes some writes, one after the other. -/
inductive Writes : {α : Type} → Exec α → ProcessState → List Write → Prop
  | nothing {α : Type} {computation : Exec α} {process : ProcessState}
    (stdout : (computation process).2.stdout = process.stdout)
    (stderr : (computation process).2.stderr = process.stderr)
    : Writes computation process []
  | write (stream : OutputStream) (bytes : List UInt8) (process : ProcessState)
    : Writes (Exec.write stream bytes) process [{ stream, bytes }]
  | stopped {α β : Type} {first : Exec α} {next : α → Exec β} {process after reason writes}
    (stops : first process = (.error reason, after)) (before : Writes first process writes)
    : Writes (first >>= next) process writes
  | bind {α β : Type} {first : Exec α} {next : α → Exec β} {process after answer writes others}
    (answers : first process = (.ok answer, after)) (before : Writes first process writes)
    (goesOn : Writes (next answer) after others)
    : Writes (first >>= next) process (writes ++ others)
  | catchFault {α : Type} {computation : Exec α} {process writes}
    (inside : Writes computation process writes)
    : Writes (Exec.catchFault computation) process writes

theorem write_stdout (bytes : List UInt8) (process : ProcessState)
    : Exec.write .stdout bytes process
      = (.ok (), { process with stdout := process.stdout.write bytes }) :=
  rfl

theorem write_stderr (bytes : List UInt8) (process : ProcessState)
    : Exec.write .stderr bytes process
      = (.ok (), { process with stderr := process.stderr ++ bytes }) :=
  rfl

/-- After a computation the output of its process has grown by what was written, in order. -/
theorem Writes.output {computation : Exec α} {process : ProcessState} {writes : List Write}
    (wrote : Writes computation process writes)
    : (computation process).2.stdout.all = process.stdout.all ++ bytesTo .stdout writes
      ∧ (computation process).2.stderr = process.stderr ++ bytesTo .stderr writes := by
  induction wrote with
  | nothing stdout stderr => simp [stdout, stderr, bytesTo]
  | write stream bytes process =>
      cases stream with
      | stdout => simp [write_stdout, LineBuffer.all_write, bytesTo]
      | stderr => simp [write_stderr, bytesTo]
  | stopped stops _ ih =>
      rw [bind_apply, stops]
      rwa [stops] at ih
  | bind answers _ _ ihFirst ihNext =>
      rw [bind_ok answers]
      rw [answers] at ihFirst
      rw [ihNext.1, ihNext.2, ihFirst.1, ihFirst.2]
      simp only [bytesTo_append, List.append_assoc, and_self]
  | catchFault _ ih =>
      rw [catchFault_apply]
      exact ih

theorem wait_output (nanos : Nat) (process : ProcessState)
    : (Exec.wait nanos process).2.stdout = process.stdout
      ∧ (Exec.wait nanos process).2.stderr = process.stderr := by
  rw [wait_apply]
  split
  · split <;> exact ⟨rfl, rfl⟩
  · exact ⟨rfl, rfl⟩

/-- Whatever code is made of, there is a list of its writes. -/
theorem Writes.congruence
    : Congruence fun _ computation _ => ∀ process, ∃ writes, Writes computation process writes where
  pure _ _ := ⟨[], .nothing rfl rfl⟩
  stop _ _ := ⟨[], .nothing rfl rfl⟩
  bind {_ _ left _ _ _} first next process := by
    obtain ⟨writes, before⟩ := first process
    rcases ran : left process with ⟨outcome, after⟩
    cases outcome with
    | error reason => exact ⟨writes, .stopped ran before⟩
    | ok answer =>
        obtain ⟨others, goesOn⟩ := next answer after
        exact ⟨writes ++ others, .bind ran before goesOn⟩
  catchFault inside process := by
    obtain ⟨writes, wrote⟩ := inside process
    exact ⟨writes, .catchFault wrote⟩
  record _ _ := ⟨[], .nothing rfl rfl⟩
  write stream bytes process := ⟨_, .write stream bytes process⟩
  wait nanos process := by
    have stays := wait_output nanos process
    exact ⟨[], .nothing stays.1 stays.2⟩

-----------------------------------------------------------------------------------------
-- Code with given writes
-----------------------------------------------------------------------------------------

theorem write_answers (stream : OutputStream) (bytes : List UInt8) (process : ProcessState)
    : ∃ after, Exec.write stream bytes process = (.ok (), after) := by
  cases stream <;> exact ⟨_, rfl⟩

/-- Makes writes one after the other. -/
def writeAll : List Write → Exec Unit
  | [] => pure ()
  | write :: others => do
      Exec.write write.stream write.bytes
      writeAll others

theorem writeAll_answers (writes : List Write) (process : ProcessState)
    : ∃ after, writeAll writes process = (.ok (), after) := by
  induction writes generalizing process with
  | nil => exact ⟨process, rfl⟩
  | cons write others ih =>
      obtain ⟨after, made⟩ := write_answers write.stream write.bytes process
      obtain ⟨last, rest⟩ := ih after
      exact ⟨last, (bind_ok made fun _ => writeAll others).trans rest⟩

/-- Any writes at all are those of some code. -/
theorem writes_writeAll (writes : List Write) (process : ProcessState)
    : Writes (writeAll writes) process writes := by
  induction writes generalizing process with
  | nil => exact .nothing rfl rfl
  | cons write others ih =>
      obtain ⟨after, made⟩ := write_answers write.stream write.bytes process
      exact .bind made (.write write.stream write.bytes process) (ih after)

end Exec

end MutationTesting
