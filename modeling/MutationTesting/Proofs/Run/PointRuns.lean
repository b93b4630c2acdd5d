import MutationTesting.Proofs.Trampoline.Slots
import MutationTesting.Run.Mutants

/-! How a mutation point is run, test by test. The program that the tests are run in is the same
for all of them, and the slot of the point is put back whatever becomes of the tests.
-/

namespace MutationTesting

-----------------------------------------------------------------------------------------
-- Programs without and with a mutant in place
-----------------------------------------------------------------------------------------

/-- The slot leads to its own function, wherever the image has that function. -/
structure LoadedProgram.HoldsOriginal (program : LoadedProgram) (slot : Slot) : Prop where
  reaches : slot.reachesFunction
  original : slot.fixup = program.image.address? slot.function

/-- No mutant is in place: every slot leads to its own function. -/
structure LoadedProgram.Ready (program : LoadedProgram) : Prop where
  distinct : program.trampolines.Distinct
  original : ∀ slot ∈ program.trampolines.slots, program.HoldsOriginal slot

/-- A program that has been loaded has no mutant in place, by registration and fixup. -/
theorem ProgramSource.load_ready {source : ProgramSource} {program : LoadedProgram}
    (loaded : source.load = .ok program)
    : program.Ready := by
  unfold ProgramSource.load Runner.link at loaded
  cases linked : Image.link source.objects (source.runner.resolver source.emptyTable) with
  | error error => simp [linked, bind, Except.bind] at loaded
  | ok image =>
      simp only [linked, bind, Except.bind, pure, Except.pure, LoadedProgram.fixedUp] at loaded
      rcases fixing : source.emptyTable.fixup image.address? with ⟨fixed, failure⟩
      rw [fixing] at loaded
      cases failure with
      | some error => simp at loaded
      | none =>
          have same : { image, trampolines := fixed } = program := by simpa using loaded
          obtain ⟨slots, resolved⟩ := TrampolineTable.fixup_of_none fixing
          subst same
          have names : fixed.slots.map (·.name) = source.emptyTable.slots.map (·.name) := by
            simp [slots, Slot.fixedUp]
          refine {
            distinct := ?_
            original := ?_
          }
          · unfold TrampolineTable.Distinct
            rw [names]
            exact TrampolineTable.ofFunctions_distinct _ _
          · intro slot member
            rw [slots] at member
            obtain ⟨empty, registered, rfl⟩ := List.mem_map.mp member
            exact ⟨Slot.fixedUp_reachesFunction (resolved empty registered), rfl⟩

/-- The program with a slot pointing at an address. -/
def LoadedProgram.withMutant (program : LoadedProgram) (slot : Slot) (address : Address)
    : LoadedProgram :=
  { program with trampolines := (program.trampolines.activate slot address).1 }

/-- The sandbox answers as the other one does, and changes what the view shows of its state as the
other one changes that.
-/
def Sandbox.ActsLike (sandbox : Sandbox τ) (other : Sandbox σ) (view : τ → σ) : Prop :=
  ∀ trial timeout state,
    other.run trial timeout (view state)
    = let ran := sandbox.run trial timeout state
      (ran.1, view ran.2)

/-- The bench with the state of its sandbox seen through a view. -/
def Bench.view (view : τ → σ) (bench : Bench τ) : Bench σ :=
  { program := bench.program, sandbox := view bench.sandbox }

namespace MutantRuns

variable {σ : Type} (setup : MutantRuns σ)

-----------------------------------------------------------------------------------------
-- One test after the other
-----------------------------------------------------------------------------------------

/-- What the next test of a point comes to: it is skipped once the mutant is killed and the rest
may be skipped, and run otherwise.
-/
def nextResult (isKilled : Bool) (reachable : ReachableTest)
    : StateM (Bench σ) (Except PanicPayload ExecutionResult) :=
  if setup.failFast && isKilled then pure (.ok .failFast) else setup.runTest reachable

def listed (point : MutationPoint) (reachable : ReachableTest) (result : ExecutionResult)
    : MutationResult :=
  { result, point, test := reachable.test, distance := reachable.distance }

theorem runTest_apply (reachable : ReachableTest) (bench : Bench σ)
    : setup.runTest reachable bench
      = let call :=
          setup.sandbox.run { program := bench.program, test := reachable.test }
            (setup.timeouts.timeoutFor reachable.test.baseline.runningTime) bench.sandbox
        (call.1, { bench with sandbox := call.2 }) :=
  rfl

theorem nextResult_skip {isKilled : Bool} (skips : (setup.failFast && isKilled) = true)
    (reachable : ReachableTest) (bench : Bench σ)
    : setup.nextResult isKilled reachable bench = (.ok .failFast, bench) := by
  simp only [nextResult, skips]
  rfl

theorem nextResult_run {isKilled : Bool} (runs : (setup.failFast && isKilled) = false)
    (reachable : ReachableTest)
    : setup.nextResult isKilled reachable = setup.runTest reachable := by
  simp [nextResult, runs]

/-- Neither skipping nor running a test changes the program. -/
theorem nextResult_program (isKilled : Bool) (reachable : ReachableTest) (bench : Bench σ)
    : (setup.nextResult isKilled reachable bench).2.program = bench.program := by
  cases skips : setup.failFast && isKilled with
  | true => rw [setup.nextResult_skip skips]
  | false => rw [setup.nextResult_run skips, runTest_apply]

/-- What becomes of a point after the result of its next test. -/
def proceed (point : MutationPoint) (isKilled : Bool) (reachable : ReachableTest)
    (rest : List ReachableTest)
    : Except PanicPayload ExecutionResult → StateM (Bench σ) (ItemOutcome MutationResult)
  | .error payload => pure { stop := some (.panicked payload) }
  | .ok result =>
      if result.status = .invalid then
        let error := .sandboxFailed point.uniqueId reachable.test.id result.stderr
        pure { stop := some (.failed error) }
      else do
        let others ← setup.runTests point (isKilled || !result.status.isPassed) rest
        pure { others with outputs := listed point reachable result :: others.outputs }

/-- Running the tests of a point starts with the result of the first one. -/
theorem runTests_cons (point : MutationPoint) (isKilled : Bool) (reachable : ReachableTest)
    (rest : List ReachableTest)
    : setup.runTests point isKilled (reachable :: rest)
      = setup.nextResult isKilled reachable >>= setup.proceed point isKilled reachable rest := by
  cases skips : setup.failFast && isKilled <;> simp only [runTests, nextResult, skips] <;> rfl

variable {setup} {point : MutationPoint} {isKilled : Bool} {reachable : ReachableTest}
  {bench after : Bench σ}

theorem runTests_panic {payload : PanicPayload} (rest : List ReachableTest)
    (ran : setup.nextResult isKilled reachable bench = (.error payload, after))
    : setup.runTests point isKilled (reachable :: rest) bench
      = ({ stop := some (.panicked payload) }, after) := by
  rw [runTests_cons]
  simp only [bind, StateT.bind, ran]
  rfl

theorem runTests_invalid {result : ExecutionResult} (rest : List ReachableTest)
    (ran : setup.nextResult isKilled reachable bench = (.ok result, after))
    (invalid : result.status = .invalid)
    : setup.runTests point isKilled (reachable :: rest) bench
      = ({
          stop :=
            some
              (.failed (.sandboxFailed point.uniqueId reachable.test.id result.stderr))
        }, after) := by
  rw [runTests_cons]
  simp only [bind, StateT.bind, ran, proceed, invalid]
  rfl

theorem runTests_next {result : ExecutionResult} (rest : List ReachableTest)
    (ran : setup.nextResult isKilled reachable bench = (.ok result, after))
    (valid : result.status ≠ .invalid)
    : setup.runTests point isKilled (reachable :: rest) bench
      = let others := setup.runTests point (isKilled || !result.status.isPassed) rest after
        ({ others.1 with outputs := listed point reachable result :: others.1.outputs },
          others.2) := by
  rw [runTests_cons]
  simp only [bind, StateT.bind, ran, proceed, valid]
  rfl

/-- Whatever skipping and running a test preserves is preserved by the tests of a point, by
induction on the tests.
-/
theorem runTests_invariant (holds : Bench σ → Prop)
    (step
      : ∀ isKilled reachable bench,
          holds bench → holds (setup.nextResult isKilled reachable bench).2)
    (isKilled : Bool) (tests : List ReachableTest) (bench : Bench σ) (start : holds bench)
    : holds (setup.runTests point isKilled tests bench).2 := by
  induction tests generalizing isKilled bench with
  | nil => exact start
  | cons reachable rest ih =>
      have first := step isKilled reachable bench start
      rcases ran : setup.nextResult isKilled reachable bench with ⟨answer, after⟩
      rw [ran] at first
      cases answer with
      | error payload =>
          rw [runTests_panic rest ran]
          exact first
      | ok result =>
          by_cases invalid : result.status = .invalid
          · rw [runTests_invalid rest ran invalid]
            exact first
          · rw [runTests_next rest ran invalid]
            exact ih _ after first

/-- All tests of a point are run in the same program. -/
theorem runTests_program (isKilled : Bool) (tests : List ReachableTest) (bench : Bench σ)
    : (setup.runTests point isKilled tests bench).2.program = bench.program :=
  runTests_invariant (·.program = bench.program)
    (fun isKilled reachable next same =>
      (setup.nextResult_program isKilled reachable next).trans same)
    isKilled tests bench rfl

-----------------------------------------------------------------------------------------
-- One point
-----------------------------------------------------------------------------------------

variable {program : LoadedProgram} {sandbox : σ}

theorem runPoint_error {error : TaskError}
    (missing : setup.locate program point = .error error)
    : setup.runPoint point { program, sandbox }
      = ({ stop := some (.failed error) }, { program, sandbox }) := by
  simp only [runPoint, bind, StateT.bind, get, getThe, MonadStateOf.get, StateT.get, pure,
    missing]
  rfl

theorem mem_of_locate {slot : Slot} {address : Address}
    (located : setup.locate program point = .ok (slot, address))
    : program.trampolines.find? (setup.slotName point) = some slot
      ∧ program.image.address? (setup.mutantSymbol point) = some address := by
  unfold locate at located
  cases found : program.trampolines.find (setup.slotName point) with
  | error error => simp [found] at located
  | ok actual =>
      cases symbol : program.image.address? (setup.mutantSymbol point) with
      | none => simp [found, symbol] at located
      | some target =>
          obtain ⟨rfl, rfl⟩ : actual = slot ∧ target = address := by
            simpa [found, symbol] using located
          exact ⟨TrampolineTable.find_eq_ok_iff.mp found, rfl⟩

/-- A located point is run with the mutant in its slot, which is put back afterwards. -/
theorem runPoint_located {slot : Slot} {address : Address}
    (located : setup.locate program point = .ok (slot, address))
    : setup.runPoint point { program, sandbox }
      = let ran :=
          setup.runTests point false point.reachableTests
            { program := program.withMutant slot address, sandbox }
        (ran.1, { ran.2 with
          program.trampolines :=
            ran.2.program.trampolines.release (program.trampolines.activate slot address).2 })
      := by
  simp only [runPoint, bind, StateT.bind, get, getThe, MonadStateOf.get, StateT.get, pure,
    located]
  rfl

/-- A located point runs its tests with the mutant in place, and then the program is what it was
before, whatever became of the tests.
-/
theorem runPoint_ok {slot : Slot} {address : Address}
    (distinct : program.trampolines.Distinct)
    (located : setup.locate program point = .ok (slot, address))
    : setup.runPoint point { program, sandbox }
      = let ran :=
          setup.runTests point false point.reachableTests
            { program := program.withMutant slot address, sandbox }
        (ran.1, { program, sandbox := ran.2.sandbox }) := by
  have member := TrampolineTable.mem_of_find? (mem_of_locate located).1
  have restored := TrampolineTable.release_activate distinct member address
  let active : Bench σ := { program := program.withMutant slot address, sandbox }
  have kept : (setup.runTests point false point.reachableTests active).2.program
      = program.withMutant slot address :=
    runTests_program false point.reachableTests active
  rw [runPoint_located located]
  dsimp only
  rw [kept]
  simp only [LoadedProgram.withMutant, restored]

/-- Running a point leaves the program as it was, however its tests end. -/
theorem runPoint_program (distinct : program.trampolines.Distinct)
    : (setup.runPoint point { program, sandbox }).2.program = program := by
  cases located : setup.locate program point with
  | error error => rw [runPoint_error located]
  | ok place => rw [runPoint_ok distinct located]

-----------------------------------------------------------------------------------------
-- The same runs in another sandbox
-----------------------------------------------------------------------------------------

/-- The same runs in another sandbox. -/
def withSandbox (setup : MutantRuns σ) (other : Sandbox τ) : MutantRuns τ :=
  {
    source := setup.source
    sandbox := other
    timeouts := setup.timeouts
    failFast := setup.failFast
  }

section

variable {other : Sandbox τ} {view : τ → σ}

/-- The next test of a point comes to the same in a sandbox that acts like the given one. -/
theorem nextResult_view (acts : other.ActsLike setup.sandbox view) (isKilled : Bool)
    (reachable : ReachableTest) (bench : Bench τ)
    : setup.nextResult isKilled reachable (bench.view view)
      = let ran := (setup.withSandbox other).nextResult isKilled reachable bench
        (ran.1, ran.2.view view) := by
  cases skips : setup.failFast && isKilled with
  | true =>
      have skipsToo : ((setup.withSandbox other).failFast && isKilled) = true := skips
      rw [nextResult_skip setup skips, nextResult_skip _ skipsToo]
  | false =>
      have runsToo : ((setup.withSandbox other).failFast && isKilled) = false := skips
      rw [nextResult_run setup skips, nextResult_run _ runsToo, runTest_apply, runTest_apply]
      have answer := acts { program := bench.program, test := reachable.test }
        (setup.timeouts.timeoutFor reachable.test.baseline.runningTime) bench.sandbox
      simp only [Bench.view, answer]
      rfl

/-- The tests of a point come to the same in a sandbox that acts like the given one, by induction
on the tests.
-/
theorem runTests_view (acts : other.ActsLike setup.sandbox view) (point : MutationPoint)
    (isKilled : Bool) (tests : List ReachableTest) (bench : Bench τ)
    : setup.runTests point isKilled tests (bench.view view)
      = let ran := (setup.withSandbox other).runTests point isKilled tests bench
        (ran.1, ran.2.view view) := by
  induction tests generalizing isKilled bench with
  | nil => rfl
  | cons reachable rest ih =>
      have first := nextResult_view acts isKilled reachable bench
      rcases ran : (setup.withSandbox other).nextResult isKilled reachable bench with
        ⟨answer, after⟩
      rw [ran] at first
      cases answer with
      | error payload => rw [runTests_panic rest ran, runTests_panic rest first]
      | ok result =>
          by_cases invalid : result.status = .invalid
          · rw [runTests_invalid rest ran invalid, runTests_invalid rest first invalid]
          · rw [runTests_next rest ran invalid, runTests_next rest first invalid, ih]

/-- A point comes to the same in a sandbox that acts like the given one. -/
theorem runPoint_view (acts : other.ActsLike setup.sandbox view) (point : MutationPoint)
    (bench : Bench τ)
    : setup.runPoint point (bench.view view)
      = let ran := (setup.withSandbox other).runPoint point bench
        (ran.1, ran.2.view view) := by
  rcases bench with ⟨program, state⟩
  cases located : setup.locate program point with
  | error error =>
      have locatedToo : (setup.withSandbox other).locate program point = .error error := located
      rw [runPoint_error locatedToo]
      exact runPoint_error located
  | ok place =>
      have locatedToo : (setup.withSandbox other).locate program point = .ok place := located
      have tests := runTests_view acts point false point.reachableTests
        { program := program.withMutant place.1 place.2, sandbox := state }
      rw [runPoint_located locatedToo]
      refine (runPoint_located located).trans ?_
      change setup.runTests point false point.reachableTests
        { program := program.withMutant place.1 place.2, sandbox := view state } = _ at tests
      rw [tests]
      rfl

end

-----------------------------------------------------------------------------------------
-- The task of a worker
-----------------------------------------------------------------------------------------

/-- A worker that cannot load the program stops before its first point. -/
theorem task_of_error {error : TaskError} (failed : setup.source.load = .error error)
    (points : List MutationPoint) (sandbox : σ)
    : setup.task points sandbox = ({ stop := some (.failed error) }, sandbox) := by
  simp only [task, runShard, bind, StateT.bind, Option.elim, failed]
  rfl

/-- A worker runs its points in the program that it has loaded. -/
theorem task_of_load (loaded : setup.source.load = .ok program) (points : List MutationPoint)
    (sandbox : σ)
    : setup.task points sandbox
      = let ran := Task.ofItems setup.runPoint points { program, sandbox }
        (ran.1, ran.2.sandbox) := by
  simp only [task, runShard, bind, StateT.bind, Option.elim, loaded]
  rfl

end MutantRuns

end MutationTesting
