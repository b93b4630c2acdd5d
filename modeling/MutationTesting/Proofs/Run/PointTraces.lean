import MutationTesting.Proofs.Run.PointBlocks
import MutationTesting.Proofs.Run.Recording

/-! What the recorded calls of a point say about its answer. As long as no test fails to run there
is one result for every test; the first test that cannot be run is the last one that is called.
-/

namespace MutationTesting

-----------------------------------------------------------------------------------------
-- The tests of a point
-----------------------------------------------------------------------------------------

/-- The calls made for the tests of a point, and the answer that follows from them. -/
inductive TestsTrace (point : MutationPoint) (tests : List ReachableTest)
    : List SandboxCall → Except TaskError (List MutationResult) → Prop
  /-- No call went wrong, and there is a result for every test. -/
  | finished {calls : List SandboxCall} {results : List MutationResult}
      (valid : ∀ call ∈ calls, ¬ call.Invalid)
      (pairs : results.map (·.pair) = tests.map (point, ·))
      : TestsTrace point tests calls (.ok results)
  /-- A call panicked. -/
  | panicked {calls : List SandboxCall} {call : SandboxCall} {payload : PanicPayload}
      (member : call ∈ calls) (answer : call.answer = .error payload)
      : TestsTrace point tests calls (.error (.workerPanicked payload.message))
  /-- All tests up to one were called, and that one could not be run. -/
  | stopped {ran rest : List ReachableTest} {next : ReachableTest} {made : List SandboxCall}
      {last : SandboxCall} {result : ExecutionResult} (split : tests = ran ++ next :: rest)
      (before : made.map (·.trial.test) = ran.map (·.test))
      (valid : ∀ call ∈ made, ¬ call.Invalid) (own : last.trial.test = next.test)
      (answer : last.answer = .ok result) (invalid : result.status = .invalid)
      : TestsTrace point tests (made ++ [last])
          (.error (.sandboxFailed point.uniqueId next.test.id result.stderr))

/-- A test whose call went well is followed by the others. -/
theorem TestsTrace.cons {point : MutationPoint} {tests : List ReachableTest}
    {calls : List SandboxCall} {answer : Except TaskError (List MutationResult)}
    (others : TestsTrace point tests calls answer) {reachable : ReachableTest}
    {call : SandboxCall} {result : ExecutionResult} (own : call.trial.test = reachable.test)
    (answered : call.answer = .ok result) (valid : result.status ≠ .invalid)
    : TestsTrace point (reachable :: tests) (call :: calls)
        (answer.map (MutantRuns.listed point reachable result :: ·)) := by
  have callValid : ¬ call.Invalid := by
    rintro ⟨other, same, invalid⟩
    obtain rfl : result = other := by simpa [answered] using same
    exact valid invalid
  cases others with
  | finished othersValid pairs =>
      refine .finished ?_ ?_
      · simpa [callValid] using othersValid
      · rw [List.map_cons, List.map_cons, pairs]
        rfl
  | panicked member answer => exact .panicked (List.mem_cons_of_mem call member) answer
  | @stopped ran rest next made last failure split before madeValid lastOwn answer invalid =>
      have longer : reachable :: tests = (reachable :: ran) ++ next :: rest := by
        rw [split, List.cons_append]
      rw [← List.cons_append]
      refine .stopped longer ?_ ?_ lastOwn answer invalid
      · rw [List.map_cons, List.map_cons, before, own]
      · simpa [callValid] using madeValid

namespace MutantRuns

variable {setup : MutantRuns σ} {point : MutationPoint} {program : LoadedProgram}

/-- The call was made in the program and answered by the sandbox of the runs. -/
structure MadeIn (setup : MutantRuns σ) (program : LoadedProgram) (call : SandboxCall) : Prop where
  program : call.trial.program = program
  answered : ∃ state, call.answer = (setup.sandbox.run call.trial call.timeout state).1

/-- Once the mutant is killed and the rest may be skipped, no test is run any more. -/
theorem runTests_skip (skips : setup.failFast = true) (tests : List ReachableTest)
    (bench : Bench σ)
    : setup.runTests point true tests bench
      = ({ outputs := tests.map (listed point · .failFast) }, bench) := by
  have skipsNext : (setup.failFast && true) = true := by simp [skips]
  induction tests with
  | nil => rfl
  | cons reachable rest ih =>
      have skipped := setup.nextResult_skip skipsNext reachable bench
      rw [runTests_next rest skipped (by decide), Bool.true_or, ih]
      rfl

/-- The call was made for a test, in the program and with the timeout that its baseline gives it. -/
structure MadeFor (setup : MutantRuns σ) (program : LoadedProgram) (reachable : ReachableTest)
    (call : SandboxCall)
    : Prop extends setup.MadeIn program call where
  test : call.trial.test = reachable.test
  timeout : call.timeout = setup.timeouts.timeoutFor reachable.test.baseline.runningTime

/-- A test that is run is called once, in the program at hand and with its timeout, and the call is
recorded.
-/
theorem nextResult_recording {isKilled : Bool} (runs : (setup.failFast && isKilled) = false)
    (reachable : ReachableTest) (bench : Bench (σ × List SandboxCall))
    : ∃ call next,
        (setup.withSandbox setup.sandbox.recording).nextResult isKilled reachable bench
          = (call.answer, {
              program := bench.program
              sandbox := (next, bench.sandbox.2 ++ [call])
            })
        ∧ setup.MadeFor bench.program reachable call := by
  let trial : Trial := { program := bench.program, test := reachable.test }
  let timeout := setup.timeouts.timeoutFor reachable.test.baseline.runningTime
  let ran := setup.sandbox.run trial timeout bench.sandbox.1
  have runsToo : ((setup.withSandbox setup.sandbox.recording).failFast && isKilled) = false := runs
  refine ⟨{ trial, timeout, answer := ran.1 }, ran.2, ?_, ⟨⟨rfl, bench.sandbox.1, rfl⟩, rfl, rfl⟩⟩
  rw [nextResult_run _ runsToo]
  rfl

/-- The calls that are made for the tests of a point in a program, and what becomes of the tests. No
call is made once the mutant is killed and the rest may be skipped.
-/
inductive TestsRun (setup : MutantRuns σ) (point : MutationPoint) (program : LoadedProgram)
    : (isKilled : Bool)
      → List ReachableTest
      → List SandboxCall
      → ItemOutcome MutationResult
      → Prop
  | nil {isKilled : Bool} : TestsRun setup point program isKilled [] [] {}
  /-- The mutant is killed, and all that is left may be skipped. -/
  | skipped (tests : List ReachableTest) (maySkip : setup.failFast = true)
      : TestsRun setup point program true tests []
          { outputs := tests.map (listed point · .failFast) }
  | panicked {isKilled : Bool} {reachable : ReachableTest} {call : SandboxCall}
      {payload : PanicPayload} (rest : List ReachableTest)
      (runs : (setup.failFast && isKilled) = false)
      (made : setup.MadeFor program reachable call) (answer : call.answer = .error payload)
      : TestsRun setup point program isKilled (reachable :: rest) [call]
          { stop := some (.panicked payload) }
  | invalid {isKilled : Bool} {reachable : ReachableTest} {call : SandboxCall}
      {result : ExecutionResult} (rest : List ReachableTest)
      (runs : (setup.failFast && isKilled) = false)
      (made : setup.MadeFor program reachable call) (answer : call.answer = .ok result)
      (invalid : result.status = .invalid)
      : TestsRun setup point program isKilled (reachable :: rest) [call]
          {
            stop :=
              some (.failed (.sandboxFailed point.uniqueId reachable.test.id result.stderr))
          }
  | next {isKilled : Bool} {reachable : ReachableTest} {rest : List ReachableTest}
      {call : SandboxCall} {calls : List SandboxCall} {result : ExecutionResult}
      {outcome : ItemOutcome MutationResult} (runs : (setup.failFast && isKilled) = false)
      (made : setup.MadeFor program reachable call) (answer : call.answer = .ok result)
      (valid : result.status ≠ .invalid)
      (others
        : TestsRun setup point program (isKilled || !result.status.isPassed) rest calls outcome)
      : TestsRun setup point program isKilled (reachable :: rest) (call :: calls)
          { outcome with outputs := listed point reachable result :: outcome.outputs }

/-- The calls made for the tests of a point are recorded in order behind earlier ones. By induction
on the tests.
-/
theorem runTests_recording (setup : MutantRuns σ) (point : MutationPoint) (isKilled : Bool)
    (tests : List ReachableTest) (bench : Bench (σ × List SandboxCall))
    : let ran :=
        (setup.withSandbox setup.sandbox.recording).runTests point isKilled tests bench
      ∃ calls,
        ran.2.sandbox.2 = bench.sandbox.2 ++ calls
        ∧ setup.TestsRun point bench.program isKilled tests calls ran.1 := by
  induction tests generalizing isKilled bench with
  | nil => exact ⟨[], (List.append_nil _).symm, .nil⟩
  | cons reachable rest ih =>
      cases skips : setup.failFast && isKilled with
      | true =>
          obtain ⟨maySkip, rfl⟩ : setup.failFast = true ∧ isKilled = true := by simpa using skips
          have maySkipToo : (setup.withSandbox setup.sandbox.recording).failFast = true := maySkip
          rw [runTests_skip maySkipToo]
          exact ⟨[], (List.append_nil _).symm, .skipped _ maySkip⟩
      | false =>
          obtain ⟨call, state, next, made⟩ := nextResult_recording skips reachable bench
          cases answered : call.answer with
          | error payload =>
              rw [answered] at next
              rw [runTests_panic rest next]
              exact ⟨[call], rfl, .panicked rest skips made answered⟩
          | ok result =>
              rw [answered] at next
              by_cases invalid : result.status = .invalid
              · rw [runTests_invalid rest next invalid]
                exact ⟨[call], rfl, .invalid rest skips made answered invalid⟩
              · obtain ⟨calls, recorded, others⟩ := ih (isKilled || !result.status.isPassed)
                  { program := bench.program, sandbox := (state, bench.sandbox.2 ++ [call]) }
                rw [runTests_next rest next invalid]
                exact ⟨call :: calls, recorded.trans (List.append_assoc _ _ _),
                  .next skips made answered invalid others⟩

/-- Every call is made for one of the tests. -/
theorem TestsRun.madeFor {isKilled : Bool} {tests : List ReachableTest} {calls : List SandboxCall}
    {outcome : ItemOutcome MutationResult}
    (run : setup.TestsRun point program isKilled tests calls outcome)
    : ∀ call ∈ calls, ∃ reachable ∈ tests, setup.MadeFor program reachable call := by
  induction run with
  | nil => simp
  | skipped => simp
  | panicked rest _ made => simp [made]
  | invalid rest _ made => simp [made]
  | next _ made _ _ _ ih =>
      intro call member
      rcases List.mem_cons.mp member with rfl | later
      · exact ⟨_, List.mem_cons_self, made⟩
      · obtain ⟨reachable, inside, own⟩ := ih call later
        exact ⟨reachable, List.mem_cons_of_mem _ inside, own⟩

/-- The answer of the tests of a point follows from their calls. -/
theorem TestsRun.trace {isKilled : Bool} {tests : List ReachableTest} {calls : List SandboxCall}
    {outcome : ItemOutcome MutationResult}
    (run : setup.TestsRun point program isKilled tests calls outcome)
    : TestsTrace point tests calls outcome.answer := by
  induction run with
  | nil => exact .finished (by simp) rfl
  | skipped tests => exact .finished (by simp) (by simp [listed, MutationResult.pair])
  | @panicked _ _ call _ _ _ _ answer => exact .panicked (List.mem_singleton_self call) answer
  | @invalid _ reachable call _ rest _ made answer invalid =>
      have stop : TestsTrace point (reachable :: rest) ([] ++ [call]) _ :=
        .stopped (List.nil_append _).symm rfl (by simp) made.test answer invalid
      exact stop
  | next _ made answer valid _ ih =>
      rw [ItemOutcome.answer_cons]
      exact ih.cons made.test answer valid

-----------------------------------------------------------------------------------------
-- Points and runs
-----------------------------------------------------------------------------------------

/-- The record of a point that is run in the program, and its answer. -/
inductive PointTrace (setup : MutantRuns σ) (program : LoadedProgram) (point : MutationPoint)
    : PointRecord → Except TaskError (List MutationResult) → Prop
  /-- The slot or the mutant is missing, and no test is run. -/
  | missing {error : TaskError} (located : setup.locate program point = .error error)
      : PointTrace setup program point { point, calls := [] } (.error error)
  /-- The tests are run with the mutant in its slot. -/
  | located {slot : Slot} {address : Address} {calls : List SandboxCall}
      {answer : Except TaskError (List MutationResult)}
      (located : setup.locate program point = .ok (slot, address))
      (made : ∀ call ∈ calls, setup.MadeIn (program.withMutant slot address) call)
      (trace : TestsTrace point point.reachableTests calls answer)
      : PointTrace setup program point { point, calls } answer

/-- What becomes of a point that is looked at in a program, and the record of it. -/
inductive PointRun (setup : MutantRuns σ) (program : LoadedProgram) (point : MutationPoint)
    : PointRecord → ItemOutcome MutationResult → Prop
  | missing {error : TaskError} (located : setup.locate program point = .error error)
      : PointRun setup program point { point, calls := [] } { stop := some (.failed error) }
  | located {slot : Slot} {address : Address} {calls : List SandboxCall}
      {outcome : ItemOutcome MutationResult}
      (located : setup.locate program point = .ok (slot, address))
      (run
        : setup.TestsRun point (program.withMutant slot address) false point.reachableTests calls
            outcome)
      : PointRun setup program point { point, calls } outcome

/-- Every point that is looked at leaves its record. -/
theorem recordPoint_run (setup : MutantRuns σ) (point : MutationPoint)
    (bench : Bench (σ × List PointRecord))
    : let ran := setup.recordPoint point bench
      ∃ record,
        ran.2.sandbox.2 = bench.sandbox.2 ++ [record]
        ∧ setup.PointRun bench.program point record ran.1 := by
  rcases bench with ⟨program, sandbox, records⟩
  let recording := setup.withSandbox setup.sandbox.recording
  refine ⟨_, rfl, ?_⟩
  cases located : setup.locate program point with
  | error error =>
      have locatedToo : recording.locate program point = .error error := located
      simp only [recordPoint]
      rw [runPoint_error locatedToo]
      exact .missing located
  | ok place =>
      have locatedToo : recording.locate program point = .ok place := located
      obtain ⟨calls, recorded, run⟩ :=
        setup.runTests_recording point false point.reachableTests
          { program := program.withMutant place.1 place.2, sandbox := (sandbox, []) }
      simp only [recordPoint]
      rw [runPoint_located locatedToo]
      dsimp only
      rw [recorded, List.nil_append]
      exact .located located run

/-- Every call that is recorded for a point was made for one of its tests. -/
theorem PointRun.madeFor {record : PointRecord} {outcome : ItemOutcome MutationResult}
    (run : setup.PointRun program point record outcome)
    : ∀ call ∈ record.calls,
        ∃ reachable ∈ point.reachableTests, ∃ active, setup.MadeFor active reachable call := by
  cases run with
  | missing => simp
  | located _ run =>
      intro call member
      obtain ⟨reachable, inside, made⟩ := run.madeFor call member
      exact ⟨reachable, inside, _, made⟩

/-- The answer of a point follows from its record. -/
theorem PointRun.trace {record : PointRecord} {outcome : ItemOutcome MutationResult}
    (run : setup.PointRun program point record outcome)
    : setup.PointTrace program point record outcome.answer := by
  cases run with
  | missing located => exact .missing located
  | located located run =>
      refine .located located (fun call member => ?_) run.trace
      obtain ⟨reachable, -, made⟩ := run.madeFor call member
      exact made.toMadeIn

/-- The record of a point that is looked at in a program, and its answer. -/
def AnsweredPoint (setup : MutantRuns σ) (program : LoadedProgram) (point : MutationPoint)
    (record : PointRecord) (answer : Except TaskError (List MutationResult))
    : Prop :=
  ∃ outcome, setup.PointRun program point record outcome ∧ outcome.answer = answer

/-- In a program without mutants every point that is looked at leaves its record. -/
theorem recordPoint_answered (distinct : program.trampolines.Distinct)
    : NotesItem (fun bench : Bench (σ × List PointRecord) => bench.program = program)
        (·.sandbox.2) (setup.AnsweredPoint program) setup.recordPoint := by
  rintro point bench rfl
  let recording := setup.withSandbox setup.sandbox.recording
  have kept
      : (recording.runPoint point
            { program := bench.program, sandbox := (bench.sandbox.1, []) }).2.program
        = bench.program :=
    runPoint_program distinct
  obtain ⟨record, noted, run⟩ := setup.recordPoint_run point bench
  exact ⟨kept, record, noted, _, run, rfl⟩

/-- The records of points are their traces. -/
theorem recordPoint_notes (distinct : program.trampolines.Distinct)
    : NotesItem (fun bench : Bench (σ × List PointRecord) => bench.program = program)
        (·.sandbox.2) (setup.PointTrace program) setup.recordPoint := by
  intro point bench start
  obtain ⟨kept, record, noted, outcome, run, same⟩ :=
    setup.recordPoint_answered distinct point bench start
  exact ⟨kept, record, noted, same ▸ run.trace⟩

/-- A worker that has loaded its program leaves records of the points that it looks at, and what the
record of one point says holds of all of them.
-/
theorem recordingTask_notes_of {valid : Bench (σ × List PointRecord) → Prop}
    {spec : MutationPoint → PointRecord → Except TaskError (List MutationResult) → Prop}
    (leaves : NotesItem valid (·.sandbox.2) spec setup.recordPoint)
    (start : ∀ sandbox, valid { program, sandbox }) (loaded : setup.source.load = .ok program)
    : NotesTask Prod.snd spec setup.recordingTask := by
  intro points state _
  obtain ⟨records, recorded, trace⟩ := leaves.ofItems points { program, sandbox := state } (start _)
  simp only [recordingTask, loaded]
  exact ⟨records, recorded, trace⟩

/-- A worker that has loaded its program looks at its points in this program. -/
theorem recordingTask_answered (loaded : setup.source.load = .ok program)
    : NotesTask Prod.snd (setup.AnsweredPoint program) setup.recordingTask :=
  recordingTask_notes_of (recordPoint_answered (ProgramSource.load_ready loaded).distinct)
    (fun _ => rfl) loaded

/-- A worker that has loaded its program leaves a record of every point that it looks at. -/
theorem recordingTask_notes (loaded : setup.source.load = .ok program)
    : NotesTask Prod.snd (setup.PointTrace program) setup.recordingTask :=
  recordingTask_notes_of (recordPoint_notes (ProgramSource.load_ready loaded).distinct)
    (fun _ => rfl) loaded

end MutantRuns

-----------------------------------------------------------------------------------------
-- Engines
-----------------------------------------------------------------------------------------

namespace Engine

/-- What the records of workers say holds of the records of a whole run. -/
theorem recordMutants_trace_of (engine : Engine σ)
    (pos : 0 < engine.configuration.counts.mutantExecution)
    (real : engine.configuration.run.dryRun = false) (points : List MutationPoint)
    {objects : List ObjectFile} {trampolined : List String}
    {spec : MutationPoint → PointRecord → Except TaskError (List MutationResult) → Prop}
    (notes : NotesTask Prod.snd spec (engine.mutantRuns objects trampolined).recordingTask)
    (sandbox : σ)
    : let recorded := engine.recordMutants points objects trampolined (sandbox, [])
      Trace spec points recorded.2.2 recorded.1 := by
  intro recorded
  have task : engine.recordingTask objects trampolined
      = (engine.mutantRuns objects trampolined).recordingTask :=
    if_neg (by simp [real])
  rw [← task] at notes
  obtain ⟨records, noted, trace⟩ := execute_trace notes pos points (sandbox, [])
  have all : recorded.2.2 = records := noted.trans (List.nil_append records)
  rw [all]
  exact trace

/-- The records of a run whose program is loaded are a trace of its answer. -/
theorem recordMutants_trace (engine : Engine σ)
    (pos : 0 < engine.configuration.counts.mutantExecution)
    (real : engine.configuration.run.dryRun = false) {points : List MutationPoint}
    {objects : List ObjectFile} {trampolined : List String} {program : LoadedProgram}
    (loaded : (engine.mutantRuns objects trampolined).source.load = .ok program) (sandbox : σ)
    : let recorded := engine.recordMutants points objects trampolined (sandbox, [])
      Trace ((engine.mutantRuns objects trampolined).PointTrace program) points recorded.2.2
        recorded.1 :=
  engine.recordMutants_trace_of pos real points (MutantRuns.recordingTask_notes loaded) sandbox

/-- Unless nothing is recorded, what the records of workers say in the loaded program holds of the
records of a whole run.
-/
theorem recordMutants_records_of (engine : Engine σ) (points : List MutationPoint)
    (objects : List ObjectFile) (trampolined : List String)
    {spec
      : LoadedProgram
        → MutationPoint
        → PointRecord
        → Except TaskError (List MutationResult)
        → Prop}
    (notes
      : ∀ program,
          (engine.mutantRuns objects trampolined).source.load = .ok program
          → NotesTask Prod.snd (spec program)
              (engine.mutantRuns objects trampolined).recordingTask)
    (sandbox : σ)
    : let recorded := engine.recordMutants points objects trampolined (sandbox, [])
      recorded.2.2 = []
      ∨ ∃ program,
          (engine.mutantRuns objects trampolined).source.load = .ok program
          ∧ Trace (spec program) points recorded.2.2 recorded.1 := by
  intro recorded
  have unrecorded
      (idle : ∀ points state, state.2 = []
        → (engine.recordingTask objects trampolined points state).2.2 = [])
      : recorded.2.2 = [] :=
    execute_invariant (fun state : σ × List PointRecord => state.2 = []) idle _ points rfl
  cases real : engine.configuration.run.dryRun with
  | true =>
      refine .inl (unrecorded fun points state none => ?_)
      rw [recordingTask, if_pos real]
      exact Task.ofItems_invariant (fun state : σ × List PointRecord => state.2 = [])
        (fun _ _ _ kept => kept) none
  | false =>
      cases loaded : (engine.mutantRuns objects trampolined).source.load with
      | error error =>
          refine .inl (unrecorded fun points state none => ?_)
          rw [recordingTask, if_neg (by simp [real]), MutantRuns.recordingTask]
          simpa only [loaded] using none
      | ok program =>
          rcases Nat.eq_zero_or_pos engine.configuration.counts.mutantExecution with none | pos
          · have idle : recorded.2.2
                = (execute (List.replicate 0 (engine.recordingTask objects trampolined)) points
                    (sandbox, [])).2.2 := by
              rw [← none]
              rfl
            refine .inl (idle.trans ?_)
            cases points <;> rfl
          · have trace :=
              engine.recordMutants_trace_of pos real points (notes program loaded) sandbox
            exact .inr ⟨program, rfl, trace⟩

/-- Unless nothing is recorded, the records of a run are a trace in its loaded program. -/
theorem recordMutants_records (engine : Engine σ) (points : List MutationPoint)
    (objects : List ObjectFile) (trampolined : List String) (sandbox : σ)
    : let recorded := engine.recordMutants points objects trampolined (sandbox, [])
      let setup := engine.mutantRuns objects trampolined
      recorded.2.2 = []
      ∨ ∃ program,
          setup.source.load = .ok program
          ∧ Trace (setup.PointTrace program) points recorded.2.2 recorded.1 :=
  engine.recordMutants_records_of points objects trampolined
    (fun _ loaded => MutantRuns.recordingTask_notes loaded) sandbox

end Engine

end MutationTesting
