import Mathlib.Data.List.Perm.Basic
import MutationTesting.Proofs.Linking.Calls
import MutationTesting.Proofs.Recording.ClosestTests
import MutationTesting.Proofs.Recording.FirstCallers
import MutationTesting.Proofs.Recording.TreeWalks
import MutationTesting.Sample.Program

/-! What a test is found to reach does not depend on the tests before it. They leave a process
behind that has a recorder of the same size and still no deadline; once the recorder is empty, code
cannot tell such a process from a new one. What is found out about a list of tests is therefore what
is found out about each of them alone.
-/

namespace MutationTesting

-----------------------------------------------------------------------------------------
-- Processes that code cannot tell apart
-----------------------------------------------------------------------------------------

/-- A process without a deadline whose recorder has the given number of functions. -/
structure ProcessState.RecordsFor (functions : Nat) (process : ProcessState) : Prop where
  endless : process.deadline = none
  size : process.recorder.mapping.length = functions + 1

/-- Two processes that record the given number of functions have recorded the same. -/
structure ProcessState.SameCalls (functions : Nat) (first second : ProcessState) : Prop where
  records : first.RecordsFor functions ∧ second.RecordsFor functions
  recorder : first.recorder = second.recorder

theorem ProcessState.RecordsFor.step {functions : Nat} {process : ProcessState}
    (records : process.RecordsFor functions) (event : CallEvent)
    : { process with recorder := process.recorder.step event }.RecordsFor functions :=
  ⟨records.endless, (CallRecorder.length_mapping_step _ event).trans records.size⟩

/-- Whatever code does, it does it alike in two processes that have recorded the same. -/
theorem ProcessState.SameCalls.respected (functions : Nat)
    : Exec.Respected (ProcessState.SameCalls functions) where
  record event _ _ same :=
    ⟨⟨same.records.1.step event, same.records.2.step event⟩,
      congrArg (·.step event) same.recorder⟩
  write stream _ _ _ same := by
    rcases same with ⟨⟨⟨endless, size⟩, endlessToo, sizeToo⟩, recorder⟩
    cases stream <;> exact ⟨rfl, ⟨⟨endless, size⟩, endlessToo, sizeToo⟩, recorder⟩
  wait nanos _ _ same := by
    rcases same with ⟨⟨⟨endless, size⟩, endlessToo, sizeToo⟩, recorder⟩
    simp only [Exec.wait_apply, endless, endlessToo]
    exact ⟨trivial, ⟨⟨rfl, size⟩, rfl, sizeToo⟩, recorder⟩

/-- A recorder that is reset is a new one of its size. -/
theorem CallRecorder.reset_eq_new {recorder : CallRecorder} {functions : Nat}
    (size : recorder.mapping.length = functions + 1)
    : recorder.reset = new functions := by
  rw [reset, new, List.map_const', size]

-----------------------------------------------------------------------------------------
-- One test
-----------------------------------------------------------------------------------------

/-- A process that has done nothing yet. -/
def ProcessState.fresh (functions : Nat) : ProcessState := { recorder := .new functions }

theorem ProcessState.recordsFor_fresh (functions : Nat) : (fresh functions).RecordsFor functions :=
  ⟨rfl, List.length_replicate⟩

namespace DiscoverySettings

variable {settings : DiscoverySettings} {program : LoadedProgram}

/-- What is found out about a test that nothing was run before. -/
def discoverAlone (settings : DiscoverySettings) (program : LoadedProgram) (test : UnitTest)
    : Except Stop Discovery :=
  (settings.discover program test (.fresh settings.functions.length)).1

/-- A test is looked at after a reset, and what was recorded by its end is what counts. -/
theorem discover_apply (settings : DiscoverySettings) (program : LoadedProgram) (test : UnitTest)
    (process : ProcessState)
    : settings.discover program test process
      = let ran := test.run program { process with recorder := process.recorder.reset }
        (ran.1.map fun _ =>
            let mapping := ran.2.recorder.mapping
            { mapping, testees := settings.testees mapping test },
          ran.2) := by
  rcases ran : test.run program { process with recorder := process.recorder.reset } with
    ⟨outcome, after⟩
  have reset : Exec.change (fun process => { process with recorder := process.recorder.reset })
      process = (.ok (), { process with recorder := process.recorder.reset }) :=
    rfl
  rw [discover, Exec.bind_ok reset, Exec.bind_apply, ran]
  cases outcome <;> rfl

/-- A test that nothing was run before is found to reach what its run records. -/
theorem discoverAlone_eq (settings : DiscoverySettings) (program : LoadedProgram)
    (test : UnitTest)
    : settings.discoverAlone program test
      = let ran := test.run program (.fresh settings.functions.length)
        ran.1.map fun _ =>
          let mapping := ran.2.recorder.mapping
          { mapping, testees := settings.testees mapping test } := by
  have fresh := ProcessState.recordsFor_fresh settings.functions.length
  have empty := CallRecorder.reset_eq_new fresh.size
  rw [discoverAlone, discover_apply, empty]
  rfl

/-- Nothing of what was run before a test is left in what is found out about it, and the process
that it leaves behind is as good for the next one.
-/
theorem discover_eq_alone (program : LoadedProgram) (test : UnitTest) {process : ProcessState}
    (records : process.RecordsFor settings.functions.length)
    : (settings.discover program test process).1 = settings.discoverAlone program test
      ∧ (settings.discover program test process).2.RecordsFor settings.functions.length := by
  have respected := ProcessState.SameCalls.respected settings.functions.length
  have runs := test.run_congruent respected.congruence
    (LoadedProgram.call_congruent respected.congruence (.refl program) [] trivial)
  have fresh := ProcessState.recordsFor_fresh settings.functions.length
  -- After the reset the two recorders are equal, and nothing else can be told apart.
  have emptied := CallRecorder.reset_eq_new records.size
  have sameStart := emptied.trans (CallRecorder.reset_eq_new fresh.size).symm
  obtain ⟨outcome, ⟨kept, -⟩, recorder⟩ :=
    runs _ _ ⟨⟨records.step .reset, fresh.step .reset⟩, sameStart⟩
  rw [discoverAlone, discover_apply, discover_apply]
  dsimp only [CallRecorder.step] at outcome kept recorder ⊢
  rw [outcome, recorder]
  exact ⟨rfl, kept⟩

/-- What is found out about tests is what is found out about each of them alone, by induction on the
tests.
-/
theorem discoverAll_eq_mapM (program : LoadedProgram) (tests : List UnitTest)
    {process : ProcessState} (records : process.RecordsFor settings.functions.length)
    : (settings.discoverAll program tests process).1
      = tests.mapM (settings.discoverAlone program) := by
  induction tests generalizing process with
  | nil => rfl
  | cons test rest ih =>
      obtain ⟨alone, kept⟩ := discover_eq_alone program test records
      rcases ran : settings.discover program test process with ⟨outcome, after⟩
      rw [ran] at alone kept
      rw [discoverAll, Exec.bind_apply, ran, List.mapM_cons, ← alone]
      cases outcome with
      | error reason => rfl
      | ok first =>
          have others : (settings.discoverAll program rest after).1 = _ := ih kept
          dsimp only
          rcases ranToo : settings.discoverAll program rest after with ⟨more, last⟩
          rw [ranToo] at others
          rw [Exec.bind_apply, ranToo, ← others]
          cases more <;> rfl

/-- What a test is said to reach by a mapping is what is found step by step: no step fails, and all
loops come to their ends.
-/
theorem testees?_eq (settings : DiscoverySettings) {mapping : List Nat} (filled : mapping ≠ [])
    (small : settings.functions.length < UInt32.size) (test : UnitTest)
    : settings.testees? mapping test = some (settings.testees mapping test) := by
  have built := CallTree.build?_eq_ofMapping filled small
  simp only [testees?, testees, built, CallTree.subtrees?_of_build built,
    CallTree.testees?_of_build built, Option.bind_eq_bind, Option.bind_some]

/-- What is found out about a test is what is found step by step in its recorded mapping. -/
theorem testees?_of_discoverAlone (small : settings.functions.length < UInt32.size)
    {test : UnitTest} {discovery : Discovery}
    (found : settings.discoverAlone program test = .ok discovery)
    : settings.testees? discovery.mapping test = some discovery.testees := by
  have fresh := ProcessState.recordsFor_fresh settings.functions.length
  have left := (discover_eq_alone program test fresh).2
  rw [discover_apply, CallRecorder.reset_eq_new fresh.size] at left
  rw [discoverAlone_eq] at found
  have size
      : (test.run program (.fresh settings.functions.length)).2.recorder.mapping.length
        = settings.functions.length + 1 :=
    left.size
  cases ended : (test.run program (.fresh settings.functions.length)).1 with
  | error reason => simp [ended, Except.map] at found
  | ok status =>
      simp only [ended, Except.map] at found
      obtain rfl := Except.ok.inj found
      exact settings.testees?_eq (List.ne_nil_of_length_eq_add_one size) small test

end DiscoverySettings

-----------------------------------------------------------------------------------------
-- Lists of tests
-----------------------------------------------------------------------------------------

/-- Steps that may fail are all taken exactly if each of them succeeds. -/
theorem mapM_eq_ok_iff {step : α → Except ε β} {inputs : List α} {outputs : List β}
    : inputs.mapM step = .ok outputs
      ↔ List.Forall₂ (fun input output => step input = .ok output) inputs outputs := by
  induction inputs generalizing outputs with
  | nil =>
      rw [List.mapM_nil, List.forall₂_nil_left_iff]
      simp [pure, Except.pure, eq_comm]
  | cons first rest ih =>
      rw [List.mapM_cons, List.forall₂_cons_left_iff]
      simp only [← ih]
      cases own : step first with
      | error reason => simp [bind, Except.bind]
      | ok output =>
          cases others : rest.mapM step with
          | error reason => simp [bind, Except.bind]
          | ok more => simp [bind, Except.bind, pure, Except.pure, eq_comm]

namespace Pipeline

variable {pipeline : Pipeline} {program : LoadedProgram}

/-- The run of a test comes to its end with a status, whichever it is. -/
def Survives (pipeline : Pipeline) (program : LoadedProgram) (test : UnitTest) : Prop :=
  ∃ status, (test.run program (.fresh pipeline.discovery.functions.length)).1 = .ok status

/-- All that tests are found to reach, in the order of the tests. -/
def discoverTestees (pipeline : Pipeline) (tests : List UnitTest)
    : Except PipelineStop (List Testee) :=
  (pipeline.discover tests).map (·.flatMap (·.testees))

theorem discover_of_error {error : TaskError}
    (failed : pipeline.discoverySource.load = .error error) (tests : List UnitTest)
    : pipeline.discover tests = .error (.failed error) := by
  rw [discover, failed]

theorem discover_of_load (loaded : pipeline.discoverySource.load = .ok program)
    (tests : List UnitTest)
    : pipeline.discover tests
      = (tests.mapM (pipeline.discovery.discoverAlone program)).mapError .stopped := by
  have found := pipeline.discovery.discoverAll_eq_mapM program tests
    (ProcessState.recordsFor_fresh _)
  rw [discover, loaded, ← found]
  dsimp only [ProcessState.fresh]
  split <;> simp_all [Except.mapError]

theorem discover_eq_ok_iff (loaded : pipeline.discoverySource.load = .ok program)
    {tests : List UnitTest} {discoveries : List Discovery}
    : pipeline.discover tests = .ok discoveries
      ↔ List.Forall₂
          (fun test discovery => pipeline.discovery.discoverAlone program test = .ok discovery)
          tests discoveries := by
  rw [discover_of_load loaded, ← mapM_eq_ok_iff]
  cases tests.mapM (pipeline.discovery.discoverAlone program) <;> simp [Except.mapError]

/-- What tests are found to reach is what is found step by step in their recorded mappings. -/
theorem testees?_of_discover (small : pipeline.discovery.functions.length < UInt32.size)
    {tests : List UnitTest} {discoveries : List Discovery}
    (found : pipeline.discover tests = .ok discoveries)
    : List.Forall₂
        (fun test discovery =>
          pipeline.discovery.testees? discovery.mapping test = some discovery.testees)
        tests discoveries := by
  cases loaded : pipeline.discoverySource.load with
  | error error =>
      rw [discover_of_error loaded] at found
      contradiction
  | ok program =>
      exact ((discover_eq_ok_iff loaded).mp found).imp fun test discovery alone =>
        DiscoverySettings.testees?_of_discoverAlone small alone

/-- Tests can be looked at in two parts. -/
theorem discover_append (pipeline : Pipeline) (tests others : List UnitTest)
    : pipeline.discover (tests ++ others)
      = (do
          let first ← pipeline.discover tests
          let second ← pipeline.discover others
          pure (first ++ second)) := by
  cases loaded : pipeline.discoverySource.load with
  | error error =>
      simp only [discover_of_error loaded]
      rfl
  | ok program =>
      simp only [discover_of_load loaded, List.mapM_append]
      cases tests.mapM (pipeline.discovery.discoverAlone program) with
      | error reason => rfl
      | ok first => cases others.mapM (pipeline.discovery.discoverAlone program) <;> rfl

theorem discoverTestees_append (pipeline : Pipeline) (tests others : List UnitTest)
    : pipeline.discoverTestees (tests ++ others)
      = (do
          let first ← pipeline.discoverTestees tests
          let second ← pipeline.discoverTestees others
          pure (first ++ second)) := by
  unfold discoverTestees
  rw [discover_append]
  cases pipeline.discover tests with
  | error reason => rfl
  | ok first =>
      cases pipeline.discover others with
      | error reason => rfl
      | ok second =>
          have joined
              : (first ++ second).flatMap (·.testees)
                = first.flatMap (·.testees) ++ second.flatMap (·.testees) :=
            List.flatMap_append
          exact congrArg Except.ok joined

/-- A test that is looked at alone is the only one of a list. -/
theorem discover_singleton_iff (loaded : pipeline.discoverySource.load = .ok program)
    {test : UnitTest} {discovery : Discovery}
    : pipeline.discover [test] = .ok [discovery]
      ↔ pipeline.discovery.discoverAlone program test = .ok discovery := by
  rw [discover_eq_ok_iff loaded, List.forall₂_cons]
  exact and_iff_left .nil

/-- Tests whose runs come to their ends are all looked at. -/
theorem exists_discoveries (loaded : pipeline.discoverySource.load = .ok program)
    {tests : List UnitTest} (survive : ∀ test ∈ tests, pipeline.Survives program test)
    : ∃ discoveries, pipeline.discover tests = .ok discoveries := by
  simp only [discover_eq_ok_iff loaded]
  induction tests with
  | nil => exact ⟨[], .nil⟩
  | cons test rest ih =>
      obtain ⟨own, others⟩ := List.forall_mem_cons.mp survive
      obtain ⟨status, ended⟩ := own
      obtain ⟨discoveries, found⟩ := ih others
      have alone := pipeline.discovery.discoverAlone_eq program test
      dsimp only at alone
      rw [ended] at alone
      exact ⟨_ :: discoveries, .cons alone found⟩

end Pipeline

-----------------------------------------------------------------------------------------
-- Points
-----------------------------------------------------------------------------------------

/-- The same point, reached by the same tests at the same distances, in whatever order. -/
structure MutationPoint.ReachedAlike (point other : MutationPoint) : Prop where
  same : { point with reachableTests := [] } = { other with reachableTests := [] }
  pairs
    : (point.reachableTests.map ReachableTest.idDistance).Perm
        (other.reachableTests.map ReachableTest.idDistance)
  distances
    : ∀ id,
        ReachableTest.distanceOf point.reachableTests id
        = ReachableTest.distanceOf other.reachableTests id

/-- Testees in another order bring the same tests to a point. -/
theorem reachedAlike_of_perm (point : MutationPoint) {testees others : List Testee}
    (sameTestees : testees.Perm others)
    : (point.withReachableTests (reachableTests point.function testees)).ReachedAlike
        (point.withReachableTests (reachableTests point.function others)) where
  same := rfl
  pairs := by
    simp only [MutationPoint.withReachableTests, List.map_append]
    exact (idDistances_reachableTests_of_perm sameTestees point.function).append_left _
  distances id := by
    have same := distanceOf_reachableTests_of_perm sameTestees point.function id
    unfold ReachableTest.distanceOf ReachableTest.listed? at same ⊢
    simp only [MutationPoint.withReachableTests, List.find?_append, Option.map_or, same]

/-- Testees in another order bring the same tests to all points. -/
theorem attachTests_reachedAlike (points : List MutationPoint) {testees others : List Testee}
    (sameTestees : testees.Perm others)
    : List.Forall₂ MutationPoint.ReachedAlike (attachTests points testees)
        (attachTests points others) := by
  unfold attachTests
  rw [List.forall₂_map_left_iff, List.forall₂_map_right_iff, List.forall₂_same]
  exact fun point _ => reachedAlike_of_perm point sameTestees

namespace Pipeline

/-- What tests reach is found out about each of them alone. Two lists of tests, one after the other,
are looked at as each of them is, also if a run goes wrong, and the functions that they reach are
those of the one and then those of the other. Tests whose runs come to their ends are all looked at;
each of them is found to reach what it would be found to reach alone. With the tests in another
order the points of the program are reached by the same tests at the same distances.
-/
theorem discover_eachAlone (pipeline : Pipeline)
    : (∀ tests others,
        pipeline.discoverTestees (tests ++ others)
        = (do
            let first ← pipeline.discoverTestees tests
            let second ← pipeline.discoverTestees others
            pure (first ++ second)))
      ∧ ∀ program,
          pipeline.discoverySource.load = .ok program
          → ∀ tests,
              (∀ test ∈ tests, pipeline.Survives program test)
              → ∃ discoveries,
                  pipeline.discover tests = .ok discoveries
                  ∧ List.Forall₂
                      (fun test discovery => pipeline.discover [test] = .ok [discovery])
                      tests discoveries
                  ∧ ∀ others,
                      tests.Perm others
                      → ∃ again,
                          pipeline.discover others = .ok again
                          ∧ discoveries.Perm again
                          ∧ List.Forall₂ MutationPoint.ReachedAlike
                              (attachTests pipeline.points (discoveries.flatMap (·.testees)))
                              (attachTests pipeline.points (again.flatMap (·.testees))) := by
  refine ⟨pipeline.discoverTestees_append, fun program loaded tests survive => ?_⟩
  obtain ⟨discoveries, found⟩ := exists_discoveries loaded survive
  have each := (discover_eq_ok_iff loaded).mp found
  refine ⟨discoveries, found, ?_, fun others reordered => ?_⟩
  · exact each.imp fun test discovery => (discover_singleton_iff loaded).mpr
  · obtain ⟨again, eachToo, sameDiscoveries⟩ := List.perm_comp_forall₂ reordered.symm each
    refine ⟨again, (discover_eq_ok_iff loaded).mpr eachToo, sameDiscoveries.symm, ?_⟩
    exact attachTests_reachedAlike _ (sameDiscoveries.symm.flatMap_right _)

/-- A test that counts down, one whose entry point is missing, and the first one again: the missing
one reaches nothing, and the two runs of the other one are found to be alike.
-/
theorem sample_discover_eachAlone
    : let pipeline := Sample.pipeline []
      let counting : UnitTest := { id := "count_down", entry := "test_count_down" }
      let missing : UnitTest := { id := "missing", entry := "test_missing" }
      let tests := [counting, missing, counting]
      ∃ program,
        pipeline.discoverySource.load = .ok program
        ∧ (∀ test ∈ tests, pipeline.Survives program test)
        ∧ tests.Perm [missing, counting, counting]
        ∧ ∃ discoveries again,
            pipeline.discover tests = .ok discoveries
            ∧ pipeline.discover [missing, counting, counting] = .ok again
            ∧ discoveries.map (·.mapping)
              = [[0, 0, 0, 3, 0, 0, 0, 3, 7, 0], [0, 0, 0, 0, 0, 0, 0, 0, 0, 0],
                  [0, 0, 0, 3, 0, 0, 0, 3, 7, 0]]
            ∧ List.Forall₂ MutationPoint.ReachedAlike
                (attachTests Sample.points (discoveries.flatMap (·.testees)))
                (attachTests Sample.points (again.flatMap (·.testees))) := by
  intro pipeline counting missing tests
  have reordered : tests.Perm [missing, counting, counting] := by decide
  have ends
      : (pipeline.discoverySource.load.toOption.any fun program =>
          tests.all fun test => (test.run program (.fresh 9)).1.isOk) = true := by
    decide +kernel
  have mappings
      : (pipeline.discover tests).toOption.map (·.map (·.mapping))
        = some
            [[0, 0, 0, 3, 0, 0, 0, 3, 7, 0], [0, 0, 0, 0, 0, 0, 0, 0, 0, 0],
              [0, 0, 0, 3, 0, 0, 0, 3, 7, 0]] := by
    decide +kernel
  cases loaded : pipeline.discoverySource.load with
  | error error => simp [loaded, Except.toOption] at ends
  | ok program =>
      have survive : ∀ test ∈ tests, pipeline.Survives program test := by
        intro test member
        rw [loaded] at ends
        have ended := List.all_eq_true.mp ends test member
        cases ran : (test.run program (.fresh 9)).1 with
        | error reason => simp [ran, Except.isOk, Except.toBool] at ended
        | ok status => exact ⟨status, ran⟩
      obtain ⟨discoveries, found, -, alike⟩ :=
        (discover_eachAlone pipeline).2 program loaded tests survive
      obtain ⟨again, foundToo, -, points⟩ := alike _ reordered
      rw [found] at mappings
      exact ⟨program, rfl, survive, reordered, discoveries, again, found, foundToo,
        Option.some.inj mappings, points⟩

end Pipeline

end MutationTesting
