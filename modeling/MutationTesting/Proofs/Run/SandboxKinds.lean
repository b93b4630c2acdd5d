import MutationTesting.Proofs.Report.Verdicts
import MutationTesting.Proofs.Run.WorkerCounts
import MutationTesting.Proofs.Sandbox.Deadlines
import MutationTesting.Sample.Single

/-! The kind of the sandbox decides nothing about the answers of a run, as long as every test ends
before its deadline. What a test says is then given by its work alone, and so is everything that
follows from it: which tests are skipped, which results there are, and why a run is given up.
-/

namespace MutationTesting

-----------------------------------------------------------------------------------------
-- Answers without output and times
-----------------------------------------------------------------------------------------

/-- What a result is about and its status, without its output and its time. -/
def MutationResult.judged (result : MutationResult)
    : (MutationPoint × ReachableTest) × ExecutionStatus :=
  (result.pair, result.result.status)

def BaselineRun.judged (run : BaselineRun) : UnitTest × ExecutionStatus :=
  (run.test, run.result.status)

/-- The same error without the output of a test. -/
def TaskError.withoutOutput : TaskError → TaskError
  | .sandboxFailed point test _ => .sandboxFailed point test ""
  | error => error

/-- The same answer without the output of tests: outputs are seen through a view, and errors do not
tell what a test wrote.
-/
def outlined (view : β → γ) (answer : Except TaskError (List β)) : Except TaskError (List γ) :=
  (seen view answer).mapError TaskError.withoutOutput

section

variable (view : β → γ)

@[simp] theorem outlined_error (error : TaskError)
    : outlined view (.error error) = .error error.withoutOutput :=
  rfl

@[simp] theorem outlined_ok (outputs : List β)
    : outlined view (.ok outputs) = .ok (outputs.map view) :=
  rfl

theorem outlined_seen (shown : α → β) (answer : Except TaskError (List α))
    : outlined view (seen shown answer) = outlined (view ∘ shown) answer := by
  cases answer <;> simp

theorem outlined_map_cons (output : β) (answer : Except TaskError (List β))
    : outlined view (answer.map (output :: ·)) = (outlined view answer).map (view output :: ·) := by
  cases answer <;> rfl

/-- A pass seen in outline is a pass over what is seen of the single items. -/
theorem outlined_sequentially (handle : α → Except TaskError (List β)) (items : List α)
    : outlined view (sequentially handle items)
      = sequentially (fun item => outlined view (handle item)) items := by
  induction items with
  | nil => rfl
  | cons item rest ih =>
      simp only [sequentially, ← ih]
      cases handle item with
      | error error => rfl
      | ok outputs => cases sequentially handle rest <;> simp [Except.map]

end

/-- Passes that treat each of the items alike come to the same. -/
theorem sequentially_congr {handle other : α → Except ε (List β)} {items : List α}
    (same : ∀ item ∈ items, handle item = other item)
    : sequentially handle items = sequentially other items := by
  induction items with
  | nil => rfl
  | cons item rest ih =>
      obtain ⟨own, others⟩ := List.forall_mem_cons.mp same
      simp only [sequentially, own, ih others]

-----------------------------------------------------------------------------------------
-- Points
-----------------------------------------------------------------------------------------

/-- What a test says in a program when it may run as long as it wants. -/
def LoadedProgram.verdict (program : LoadedProgram) (test : UnitTest) : ExecutionStatus :=
  (Trial.work { program, test }).verdict

/-- From all of the given states the sandbox comes to the status for the trial. -/
def Sandbox.Judges (sandbox : Sandbox σ) (states : σ → Prop) (trial : Trial) (timeout : Duration)
    (status : ExecutionStatus)
    : Prop :=
  ∀ state,
    states state
    → ∃ result, (sandbox.run trial timeout state).1 = .ok result ∧ result.status = status

/-- What the tests of a point say when the status of each is given. -/
def judgedTests (failFast : Bool) (point : MutationPoint) (verdict : UnitTest → ExecutionStatus)
    : (isKilled : Bool)
      → List ReachableTest
      → Except TaskError (List ((MutationPoint × ReachableTest) × ExecutionStatus))
  | _, [] => .ok []
  | isKilled, reachable :: rest =>
      let status := if failFast && isKilled then .failFast else verdict reachable.test
      if status = .invalid then
        .error (.sandboxFailed point.uniqueId reachable.test.id "")
      else
        (judgedTests failFast point verdict (isKilled || !status.isPassed) rest).map
          (((point, reachable), status) :: ·)

namespace MutantRuns

variable {setup : MutantRuns σ} {states : σ → Prop} {program : LoadedProgram}

/-- The timeout of a test. -/
def timeoutOf (setup : MutantRuns σ) (test : UnitTest) : Duration :=
  setup.timeouts.timeoutFor test.baseline.runningTime

/-- The next test of a point is skipped, or it has the status to which the sandbox comes. -/
theorem nextResult_judged {verdict : UnitTest → ExecutionStatus} (isKilled : Bool)
    {reachable : ReachableTest}
    (judges
      : setup.sandbox.Judges states { program, test := reachable.test }
          (setup.timeoutOf reachable.test) (verdict reachable.test))
    (stays
      : ∀ trial timeout state,
          states state → states (setup.sandbox.run trial timeout state).2)
    {sandbox : σ} (start : states sandbox)
    : ∃ result after,
        setup.nextResult isKilled reachable { program, sandbox }
          = (.ok result, { program, sandbox := after })
        ∧ states after
        ∧ result.status
          = if setup.failFast && isKilled then .failFast else verdict reachable.test := by
  cases skips : setup.failFast && isKilled with
  | true =>
      exact ⟨.failFast, sandbox, setup.nextResult_skip skips reachable _, start, rfl⟩
  | false =>
      obtain ⟨result, answered, status⟩ := judges sandbox start
      rw [setup.nextResult_run skips, runTest_apply]
      exact ⟨result, _, Prod.ext answered rfl, stays _ _ _ start, status⟩

/-- What the tests of a point say follows from their statuses, by induction on the tests. -/
theorem runTests_judged (point : MutationPoint) (verdict : UnitTest → ExecutionStatus)
    (stays
      : ∀ trial timeout state,
          states state → states (setup.sandbox.run trial timeout state).2)
    (isKilled : Bool) (tests : List ReachableTest)
    (judges
      : ∀ reachable ∈ tests,
          setup.sandbox.Judges states { program, test := reachable.test }
            (setup.timeoutOf reachable.test) (verdict reachable.test))
    {sandbox : σ} (start : states sandbox)
    : outlined MutationResult.judged
          (setup.runTests point isKilled tests { program, sandbox }).1.answer
      = judgedTests setup.failFast point verdict isKilled tests := by
  induction tests generalizing isKilled sandbox with
  | nil => rfl
  | cons reachable rest ih =>
      obtain ⟨own, others⟩ := List.forall_mem_cons.mp judges
      obtain ⟨result, after, ran, valid, status⟩ :=
        nextResult_judged isKilled own stays start
      unfold judgedTests
      rw [← status]
      by_cases invalid : result.status = .invalid
      · rw [runTests_invalid rest ran invalid, if_pos invalid]
        rfl
      · rw [runTests_next rest ran invalid, if_neg invalid, ItemOutcome.answer_cons,
          outlined_map_cons, ih _ others valid]
        rfl

/-- What is said about a point when every test ends in time. -/
def judgedPoint (setup : MutantRuns σ) (point : MutationPoint)
    : Except TaskError (List ((MutationPoint × ReachableTest) × ExecutionStatus)) :=
  match setup.source.load with
  | .error error => .error error.withoutOutput
  | .ok program =>
      match setup.locate program point with
      | .error error => .error error.withoutOutput
      | .ok (slot, address) =>
          judgedTests setup.failFast point (program.withMutant slot address).verdict false
            point.reachableTests

/-- With the mutant of a point in place all tests that reach the point end in time. -/
def EndsInTime (setup : MutantRuns σ) (point : MutationPoint) : Prop :=
  ∀ program slot address,
    setup.source.load = .ok program
    → setup.locate program point = .ok (slot, address)
    → ∀ reachable ∈ point.reachableTests,
        (Trial.work
          { program := program.withMutant slot address, test := reachable.test }).EndsWithin
          (setup.timeoutOf reachable.test)

/-- It is enough to look at the program that is loaded and at the place that is found in it. -/
theorem EndsInTime.of_located {setup : MutantRuns σ} {point : MutationPoint}
    {program : LoadedProgram} {slot : Slot} {address : Address}
    (loaded : setup.source.load = .ok program)
    (located : setup.locate program point = .ok (slot, address))
    (ends
      : ∀ reachable ∈ point.reachableTests,
          (Trial.work
            { program := program.withMutant slot address, test := reachable.test }).EndsWithin
            (setup.timeoutOf reachable.test))
    : setup.EndsInTime point := by
  intro other place target loadedToo locatedToo
  obtain rfl := Except.ok.inj (loaded.symm.trans loadedToo)
  obtain ⟨rfl, rfl⟩ := Prod.mk.inj (Except.ok.inj (located.symm.trans locatedToo))
  exact ends

/-- A worker whose tests end in time says that about a point. -/
theorem pointAnswer_judged {setup : MutantRuns Host} {kind : SandboxKind}
    (own : setup.sandbox = .ofKind kind) {point : MutationPoint} (ends : setup.EndsInTime point)
    {host : Host} (endless : host.process.deadline = none)
    : outlined MutationResult.judged (setup.pointAnswer host point) = setup.judgedPoint point := by
  unfold pointAnswer judgedPoint
  cases loaded : setup.source.load with
  | error error => rfl
  | ok program =>
      have distinct := (ProgramSource.load_ready loaded).distinct
      dsimp only
      rw [outlined_seen]
      change outlined MutationResult.judged _ = _
      cases located : setup.locate program point with
      | error error =>
          rw [runPoint_error located]
          rfl
      | ok place =>
          have judges : ∀ reachable ∈ point.reachableTests,
              setup.sandbox.Judges (fun host => host.process.deadline = none)
                { program := program.withMutant place.1 place.2, test := reachable.test }
                (setup.timeoutOf reachable.test)
                ((program.withMutant place.1 place.2).verdict reachable.test) := by
            intro reachable member state valid
            rw [own]
            exact Sandbox.ofKind_status kind
              (ends program place.1 place.2 loaded located reachable member) valid
          have stays := (Sandbox.ofKind_steady kind).stays
          rw [← own] at stays
          rw [runPoint_ok distinct located]
          exact runTests_judged point _ stays false point.reachableTests judges endless

end MutantRuns

-----------------------------------------------------------------------------------------
-- Tests
-----------------------------------------------------------------------------------------

namespace BaselineRuns

/-- The test ends in time in the program without mutants. -/
def EndsInTime (setup : BaselineRuns σ) (test : UnitTest) : Prop :=
  ∀ program,
    setup.source.load = .ok program
    → (Trial.work { program, test }).EndsWithin setup.timeout

/-- What is said about a test that ends in time. -/
def judgedTest (setup : BaselineRuns σ) (test : UnitTest)
    : Except TaskError (List (UnitTest × ExecutionStatus)) :=
  match setup.source.load with
  | .error error => .error error.withoutOutput
  | .ok program => .ok [(test, program.verdict test)]

/-- A worker whose tests end in time says that about a test. -/
theorem testAnswer_judged {setup : BaselineRuns Host} {kind : SandboxKind}
    (own : setup.sandbox = .ofKind kind) {test : UnitTest} (ends : setup.EndsInTime test)
    {host : Host} (endless : host.process.deadline = none)
    : outlined BaselineRun.judged (setup.testAnswer host test) = setup.judgedTest test := by
  unfold testAnswer judgedTest
  cases loaded : setup.source.load with
  | error error => rfl
  | ok program =>
      dsimp only
      rw [outlined_seen]
      change outlined BaselineRun.judged _ = _
      obtain ⟨result, answered, status⟩ :=
        Sandbox.ofKind_status kind (ends program loaded) endless
      rw [← own] at answered
      rw [runTest_apply]
      dsimp only
      rw [answered]
      change Except.ok [(test, result.status)] = _
      rw [status]
      rfl

end BaselineRuns

-----------------------------------------------------------------------------------------
-- Engines
-----------------------------------------------------------------------------------------

namespace Engine

/-- What is said about a point when every test ends in time, or what is planned for it. -/
def judgedPoint (engine : Engine σ) (objects : List ObjectFile) (trampolined : List String)
    (point : MutationPoint)
    : Except TaskError (List ((MutationPoint × ReachableTest) × ExecutionStatus)) :=
  if engine.configuration.run.dryRun then
    .ok (point.reachableTests.map fun reachable => ((point, reachable), .dryRun))
  else
    (engine.mutantRuns objects trampolined).judgedPoint point

/-- A run over mutants in a sandbox of either kind is a pass in which the kind does not occur. -/
theorem runMutants_judged (engine : Engine σ) (kind : SandboxKind)
    (pos : 0 < engine.configuration.counts.mutantExecution) {points : List MutationPoint}
    {objects : List ObjectFile} {trampolined : List String}
    (ends : ∀ point ∈ points, (engine.mutantRuns objects trampolined).EndsInTime point)
    {host : Host} (endless : host.process.deadline = none)
    : outlined MutationResult.judged
          ((engine.withSandbox (.ofKind kind)).runMutants points objects trampolined host).1
      = sequentially (engine.judgedPoint objects trampolined) points := by
  have steady : (engine.withSandbox (.ofKind kind)).sandbox.Steady
      fun host => host.process.deadline = none :=
    Sandbox.ofKind_steady kind
  have pass := runMutants_sequentially steady pos points objects trampolined endless endless
  have shown (answer : Except TaskError (List MutationResult))
      : outlined MutationResult.judged (seen MutationResult.untimed answer)
        = outlined MutationResult.judged answer :=
    outlined_seen _ _ _
  rw [← shown, pass, outlined_sequentially]
  refine sequentially_congr fun point member => ?_
  unfold pointAnswer judgedPoint
  cases planned : engine.configuration.run.dryRun with
  | true =>
      have plannedToo : (engine.withSandbox (.ofKind kind)).configuration.run.dryRun = true :=
        planned
      rw [if_pos plannedToo, if_pos rfl, outlined_ok, List.map_map, List.map_map]
      rfl
  | false =>
      have real : ¬ (engine.withSandbox (.ofKind kind)).configuration.run.dryRun = true := by
        rw [withSandbox, planned]
        decide
      rw [if_neg real, if_neg (by decide)]
      have own : ((engine.withSandbox (.ofKind kind)).mutantRuns objects trampolined).sandbox
          = .ofKind kind :=
        rfl
      exact MutantRuns.pointAnswer_judged own (ends point member) endless

/-- A run of tests in a sandbox of either kind is a pass in which the kind does not occur. -/
theorem runBaselines_judged (engine : Engine σ) (kind : SandboxKind)
    (pos : 0 < engine.configuration.counts.testExecution) {tests : List UnitTest}
    {objects : List ObjectFile} {trampolined : List String}
    (ends : ∀ test ∈ tests, (engine.baselineRuns objects trampolined).EndsInTime test)
    {host : Host} (endless : host.process.deadline = none)
    : outlined BaselineRun.judged
          ((engine.withSandbox (.ofKind kind)).runBaselines tests objects trampolined host).1
      = sequentially (engine.baselineRuns objects trampolined).judgedTest tests := by
  have steady : (engine.withSandbox (.ofKind kind)).sandbox.Steady
      fun host => host.process.deadline = none :=
    Sandbox.ofKind_steady kind
  have pass := runBaselines_sequentially steady pos tests objects trampolined endless endless
  have shown (answer : Except TaskError (List BaselineRun))
      : outlined BaselineRun.judged (seen BaselineRun.untimed answer)
        = outlined BaselineRun.judged answer :=
    outlined_seen _ _ _
  rw [← shown, pass, outlined_sequentially]
  refine sequentially_congr fun test member => ?_
  have own : ((engine.withSandbox (.ofKind kind)).baselineRuns objects trampolined).sandbox
      = .ofKind kind :=
    rfl
  exact BaselineRuns.testAnswer_judged own (ends test member) endless

/-- The kind of the sandbox does not change what a run says, when nothing that is run would be
killed at its deadline and nothing exits or is ended by a signal. Runs over mutants, and runs of
tests without mutants, have the same pairs with the same statuses, or fail by the same error; only
what was written and how long it took may differ.
-/
theorem runs_eq_of_kinds (engine : Engine σ) (kind other : SandboxKind) {first second : Host}
    (endless : first.process.deadline = none) (endlessToo : second.process.deadline = none)
    : (∀ points objects trampolined,
          (∀ point ∈ points, (engine.mutantRuns objects trampolined).EndsInTime point)
          → outlined MutationResult.judged
                ((engine.withSandbox (.ofKind kind)).runMutants points objects trampolined first).1
              = outlined MutationResult.judged
                  ((engine.withSandbox (.ofKind other)).runMutants points objects trampolined
                    second).1)
      ∧ ∀ tests objects trampolined,
          (∀ test ∈ tests, (engine.baselineRuns objects trampolined).EndsInTime test)
          → outlined BaselineRun.judged
                ((engine.withSandbox (.ofKind kind)).runBaselines tests objects trampolined first).1
              = outlined BaselineRun.judged
                  ((engine.withSandbox (.ofKind other)).runBaselines tests objects trampolined
                    second).1 := by
  refine ⟨fun points objects trampolined ends => ?_, fun tests objects trampolined ends => ?_⟩
  · -- Without workers there is no pass over the points, but then nothing is run at all.
    rcases Nat.eq_zero_or_pos engine.configuration.counts.mutantExecution with nobody | pos
    · have unstaffed (kind : SandboxKind) (host : Host)
          : ((engine.withSandbox (.ofKind kind)).runMutants points objects trampolined host).1
            = if points.isEmpty then .ok [] else .error (.noWorkers points.length) := by
        rw [← execute_nobody points host, runMutants, withSandbox, nobody]
        rfl
      rw [unstaffed, unstaffed]
    · rw [engine.runMutants_judged kind pos ends endless,
        engine.runMutants_judged other pos ends endlessToo]
  · rcases Nat.eq_zero_or_pos engine.configuration.counts.testExecution with nobody | pos
    · have unstaffed (kind : SandboxKind) (host : Host)
          : ((engine.withSandbox (.ofKind kind)).runBaselines tests objects trampolined host).1
            = if tests.isEmpty then .ok [] else .error (.noWorkers tests.length) := by
        rw [← execute_nobody tests host, runBaselines, withSandbox, nobody]
        rfl
      rw [unstaffed, unstaffed]
    · rw [engine.runBaselines_judged kind pos ends endless,
        engine.runBaselines_judged other pos ends endlessToo]

section

open Sample.Single

/-- A mutant that panics, with a test that writes something and then calls it, one that calls a
function that does not exist, and one that passes: in sandboxes of both kinds two of them crash.
Without the mutant the first one only fails.
-/
theorem sample_runs_eq_of_kinds
    : let objects : List ObjectFile :=
        [
          {
            name := "program.o"
            definitions :=
              [
                ⟨"one", .const 1⟩,
                ⟨point.mutatedFunctionName, .panic (.text "no")⟩,
                ⟨"check", .sequence [.write .stdout [104, 105], .call "_one_trampoline" []]⟩,
                ⟨"stray", .call "nothing" []⟩,
                ⟨"quiet", .const 0⟩
              ]
            references := ["_one_trampoline"]
          }
        ]
      let tests : List UnitTest :=
        [{ id := "a", entry := "check" }, { id := "b", entry := "stray" },
          { id := "c", entry := "quiet" }]
      let reached := point.withReachableTests (tests.map ({ test := ·, distance := 1 }))
      let mutants (kind : SandboxKind) :=
        ((engineByName.withSandbox (.ofKind kind)).runMutants [reached] objects ["one"] {}).1
      let baselines (kind : SandboxKind) :=
        ((engineByName.withSandbox (.ofKind kind)).runBaselines tests objects ["one"] {}).1
      (engineByName.mutantRuns objects ["one"]).EndsInTime reached
      ∧ (∀ test ∈ tests, (engineByName.baselineRuns objects ["one"]).EndsInTime test)
      ∧ outlined MutationResult.judged (mutants .fork)
          = outlined MutationResult.judged (mutants .null)
      ∧ outlined BaselineRun.judged (baselines .fork)
          = outlined BaselineRun.judged (baselines .null)
      ∧ (mutants .fork).map (List.map (·.result.status)) = .ok [.crashed, .crashed, .passed]
      ∧ (baselines .fork).map (List.map (·.result.status)) = .ok [.failed, .crashed, .passed] := by
  intro objects tests reached mutants baselines
  let image : Image :=
    {
      functions := objects.flatMap fun object => object.definitions.map (·.body)
      symbols :=
        [
          ("one", .function (.ofIndex 0)),
          (point.mutatedFunctionName, .function (.ofIndex 1)),
          ("check", .function (.ofIndex 2)),
          ("stray", .function (.ofIndex 3)),
          ("quiet", .function (.ofIndex 4)),
          ("_one_trampoline", .slot (.own "_one_trampoline"))
        ]
    }
  let program : LoadedProgram := { image, trampolines := { slots := [slot] } }
  have loaded : (engineByName.baselineRuns objects ["one"]).source.load = .ok program := rfl
  have located
      : (engineByName.mutantRuns objects ["one"]).locate program reached
        = .ok (slot, .ofIndex 1) := by
    decide
  have ends : (engineByName.mutantRuns objects ["one"]).EndsInTime reached := by
    refine .of_located loaded located ?_
    intro reachable member
    obtain ⟨test, listed, rfl⟩ := List.mem_map.mp member
    rcases List.mem_cons.mp listed with rfl | later
    · exact ⟨.inr ⟨.text "no", rfl⟩, by decide⟩
    · rcases List.mem_cons.mp later with rfl | last
      · exact ⟨.inl ⟨.crashed, rfl⟩, by decide⟩
      · obtain rfl := List.mem_singleton.mp last
        exact ⟨.inl ⟨.passed, rfl⟩, by decide⟩
  have endsToo : ∀ test ∈ tests, (engineByName.baselineRuns objects ["one"]).EndsInTime test := by
    intro test listed other loadedToo
    obtain rfl := Except.ok.inj (loaded.symm.trans loadedToo)
    rcases List.mem_cons.mp listed with rfl | later
    · exact ⟨.inl ⟨.failed, rfl⟩, by decide⟩
    · rcases List.mem_cons.mp later with rfl | last
      · exact ⟨.inl ⟨.crashed, rfl⟩, by decide⟩
      · obtain rfl := List.mem_singleton.mp last
        exact ⟨.inl ⟨.passed, rfl⟩, by decide⟩
  have endless : ({} : Host).process.deadline = none := rfl
  obtain ⟨same, sameToo⟩ := runs_eq_of_kinds engineByName .fork .null endless endless
  exact ⟨ends, endsToo, same [reached] objects ["one"] (List.forall_mem_singleton.mpr ends),
    sameToo tests objects ["one"] endsToo, by decide, by decide⟩

end

end Engine

end MutationTesting
