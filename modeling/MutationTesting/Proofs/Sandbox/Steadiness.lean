import MutationTesting.Proofs.Linking.Calls
import MutationTesting.Sandbox.Sandbox

/-! Sandboxes whose answers do not depend on earlier calls. How long a run took is left out of
the comparison, since no two runs need take the same time. The sandboxes of both kinds are
steady, whether or not a run shares the process of its host.
-/

namespace MutationTesting

def ExecutionResult.untimed (result : ExecutionResult) : ExecutionResult :=
  { result with runningTime := .zero }

/-- Results that agree apart from their times have the same status and the same output. -/
theorem ExecutionResult.untimed_inj {left right : ExecutionResult}
    (same : left.untimed = right.untimed)
    : left.status = right.status
      ∧ left.stdout = right.stdout
      ∧ left.stderr = right.stderr := by
  simpa [untimed] using same

def untimedAnswer (answer : Except PanicPayload ExecutionResult)
    : Except PanicPayload ExecutionResult :=
  answer.map ExecutionResult.untimed

/-- Answers that agree in what is shown of a result are the same panic, or results that agree in it.
-/
theorem answer_cases {shown : ExecutionResult → ExecutionResult}
    {left right : Except PanicPayload ExecutionResult} (same : left.map shown = right.map shown)
    : (∃ payload, left = .error payload ∧ right = .error payload)
      ∨ ∃ first second, left = .ok first ∧ right = .ok second ∧ shown first = shown second := by
  cases left <;> cases right <;> simp_all [Except.map]

/-- Answers that agree are the same panic, or results that agree apart from their times. -/
theorem untimedAnswer_inj {left right : Except PanicPayload ExecutionResult}
    (same : untimedAnswer left = untimedAnswer right)
    : (∃ payload, left = .error payload ∧ right = .error payload)
      ∨ ∃ first second,
          left = .ok first ∧ right = .ok second ∧ first.untimed = second.untimed :=
  answer_cases same

/-- Calls lead from the given states to such states only, and in all of them a trial under a
deadline ends in the same way, whatever was called before.
-/
structure Sandbox.Steady (sandbox : Sandbox σ) (states : σ → Prop) : Prop where
  stays
    : ∀ trial timeout state, states state → states (sandbox.run trial timeout state).2
  agrees
    : ∀ trial timeout first second,
        states first
        → states second
        → untimedAnswer (sandbox.run trial timeout first).1
            = untimedAnswer (sandbox.run trial timeout second).1

/-- Calls lead from the given states to such states only, and in all of them a trial under a
deadline has the same result as far as it is shown. Its status and its error output are shown in
any case, since these decide how a run goes on.
-/
structure Sandbox.Repeats (sandbox : Sandbox σ) (states : σ → Prop)
    (shown : ExecutionResult → ExecutionResult)
    : Prop where
  tells
    : ∀ first second,
        shown first = shown second
        → first.status = second.status ∧ first.stderr = second.stderr
  stays : ∀ trial timeout state, states state → states (sandbox.run trial timeout state).2
  agrees
    : ∀ trial timeout first second,
        states first
        → states second
        → (sandbox.run trial timeout first).1.map shown
            = (sandbox.run trial timeout second).1.map shown

/-- A steady sandbox repeats its results apart from their times. -/
theorem Sandbox.Steady.repeats {sandbox : Sandbox σ} {states : σ → Prop}
    (steady : sandbox.Steady states)
    : sandbox.Repeats states ExecutionResult.untimed where
  tells first second same := by
    obtain ⟨status, -, stderr⟩ := ExecutionResult.untimed_inj same
    exact ⟨status, stderr⟩
  stays := steady.stays
  agrees := steady.agrees

/-- A sandbox that repeats its results with all that they say is steady. -/
theorem Sandbox.Repeats.steady {sandbox : Sandbox σ} {states : σ → Prop}
    (repeats : sandbox.Repeats states id)
    : sandbox.Steady states where
  stays := repeats.stays
  agrees trial timeout first second left right := by
    have same := repeats.agrees trial timeout first second left right
    rw [Except.map_id] at same
    exact congrArg untimedAnswer same

-----------------------------------------------------------------------------------------
-- Runs that share the process of the host
-----------------------------------------------------------------------------------------

/-- Neither process has a deadline, and their clocks are as far apart as the given times. -/
structure ProcessState.Apart (ahead behind : Nat) (first second : ProcessState) : Prop where
  endless : first.deadline = none ∧ second.deadline = none
  clocks : first.elapsed + ahead = second.elapsed + behind

/-- Without a deadline code cannot tell what time it is. -/
theorem ProcessState.Apart.respected (ahead behind : Nat)
    : Exec.Respected (ProcessState.Apart ahead behind) where
  record _ _ _ apart := ⟨apart.endless, apart.clocks⟩
  write stream _ first second apart := by
    cases stream <;> exact ⟨rfl, apart.endless, apart.clocks⟩
  wait nanos first second apart := by
    have later : first.elapsed + nanos + ahead = second.elapsed + nanos + behind := by
      have clocks := apart.clocks
      omega
    simp only [Exec.wait_apply, apart.endless.1, apart.endless.2]
    exact ⟨trivial, ⟨rfl, rfl⟩, later⟩

/-- In two processes without a deadline work ends in the same way and takes the same time. -/
theorem runInProcess_agrees {work : Work} (timeout : Duration) {first second : ProcessState}
    (runs
      : Exec.Corresponds (ProcessState.Apart second.elapsed first.elapsed) work work)
    (endless : first.deadline = none ∧ second.deadline = none)
    : (runInProcess work timeout first).1 = (runInProcess work timeout second).1
      ∧ (runInProcess work timeout first).2.deadline = none := by
  obtain ⟨same, apart⟩ := runs first second ⟨endless, Nat.add_comm _ _⟩
  unfold runInProcess
  rcases ran : work first with ⟨outcome, after⟩
  rcases ranToo : work second with ⟨outcome', after'⟩
  rw [ran, ranToo] at same apart
  subst same
  have clocks := apart.clocks
  have took : after.elapsed - first.elapsed = after'.elapsed - second.elapsed := by
    dsimp only at clocks
    omega
  exact ⟨by simp only [took], apart.endless.1⟩

-----------------------------------------------------------------------------------------
-- Runs in a process of their own
-----------------------------------------------------------------------------------------

/-- The processes differ at most in what is counted and recorded. -/
structure ProcessState.Alike (first second : ProcessState) : Prop where
  stdout : first.stdout = second.stdout
  stderr : first.stderr = second.stderr
  elapsed : first.elapsed = second.elapsed
  deadline : first.deadline = second.deadline

/-- Code cannot see what is counted and recorded. -/
theorem ProcessState.Alike.respected : Exec.Respected ProcessState.Alike where
  record _ _ _ alike := { alike with }
  write stream bytes first second alike := by
    cases stream with
    | stdout =>
        exact ⟨rfl, { alike with stdout := congrArg (LineBuffer.write · bytes) alike.stdout }⟩
    | stderr => exact ⟨rfl, { alike with stderr := congrArg (· ++ bytes) alike.stderr }⟩
  wait nanos first second alike := by
    rcases first with ⟨recorder, counted, stdout, stderr, elapsed, deadline⟩
    rcases second with ⟨recorder', counted', stdout', stderr', elapsed', deadline'⟩
    obtain ⟨rfl, rfl, rfl, rfl⟩ := alike
    rw [Exec.wait_apply, Exec.wait_apply]
    cases deadline with
    | none => exact ⟨rfl, rfl, rfl, rfl, rfl⟩
    | some deadline =>
        dsimp only
        split <;> exact ⟨rfl, rfl, rfl, rfl, rfl⟩

/-- What is left of a process tells nothing about what was counted and recorded. -/
theorem Remains.ofOutcome_alike (outcome : Except Stop ExecutionStatus)
    {first second : ProcessState} (alike : first.Alike second)
    : Remains.ofOutcome outcome first = Remains.ofOutcome outcome second := by
  simp only [ofOutcome, alike.stdout, alike.stderr, alike.elapsed]

theorem ProcessState.Alike.copied (timeout : Duration) (first second : ProcessState)
    : (first.copied timeout).Alike (second.copied timeout) :=
  ⟨rfl, rfl, rfl, rfl⟩

/-- Work that runs in a copy of a process ends in the same way in a copy of any other one. -/
theorem runIsolated_agrees {work : Work} (runs : Exec.Corresponds ProcessState.Alike work work)
    (timeout : Duration) (first second : ProcessState)
    : runIsolated work timeout first = runIsolated work timeout second := by
  have started := (ProcessState.Alike.respected.wait shortestRun).bind fun _ => runs
  obtain ⟨same, alike⟩ :=
    started (first.copied timeout) (second.copied timeout) (.copied timeout first second)
  simp only [runIsolated, same, Remains.ofOutcome_alike _ alike]

-----------------------------------------------------------------------------------------
-- Both kinds of sandboxes
-----------------------------------------------------------------------------------------

theorem Trial.work_congruent {alike : (α : Type) → Exec α → Exec α → Prop}
    (congruence : Exec.Congruence alike) (trial : Trial)
    : alike ExecutionStatus trial.work trial.work :=
  trial.test.run_congruent congruence
    (LoadedProgram.call_congruent congruence (.refl trial.program) [] trivial)

/-- Sandboxes of either kind repeat their results as long as their host is not going to be killed.
-/
theorem Sandbox.ofKind_repeats (kind : SandboxKind)
    : (Sandbox.ofKind kind).Repeats (fun host => host.process.deadline = none) id := by
  have tells (first second : ExecutionResult) (same : id first = id second)
      : first.status = second.status ∧ first.stderr = second.stderr := by
    obtain rfl : first = second := same
    exact ⟨rfl, rfl⟩
  cases kind with
  | fork =>
      refine ⟨tells, fun _ _ _ endless => endless, fun trial timeout first second _ _ => ?_⟩
      have same := runIsolated_agrees (trial.work_congruent ProcessState.Alike.respected.congruence)
        timeout first.process second.process
      simp only [ofKind, isolated, same]
  | null =>
      refine ⟨tells, fun trial timeout host endless => ?_,
        fun trial timeout first second left right => ?_⟩
      · exact (runInProcess_agrees timeout
          (trial.work_congruent (ProcessState.Apart.respected _ _).congruence) ⟨endless, endless⟩).2
      · have same := (runInProcess_agrees timeout
          (trial.work_congruent (ProcessState.Apart.respected _ _).congruence) ⟨left, right⟩).1
        exact congrArg (fun result => Except.map id (.ok result)) same

/-- Sandboxes of either kind are steady as long as their host is not going to be killed. -/
theorem Sandbox.ofKind_steady (kind : SandboxKind)
    : (Sandbox.ofKind kind).Steady (fun host => host.process.deadline = none) :=
  (Sandbox.ofKind_repeats kind).steady

end MutationTesting
