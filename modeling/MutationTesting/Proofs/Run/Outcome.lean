import MutationTesting.Proofs.Run.Loading
import MutationTesting.Proofs.Run.PointTraces
import MutationTesting.Sample.Single

/-! When a run over mutants succeeds, and by which error it fails. It succeeds when nothing is
defined twice, nothing is missing and every test that is run can be run; its results are then
one for every point and test that reaches it. Otherwise its error is that of the first thing
that is wrong, although the workers behind it go on.
-/

namespace MutationTesting

namespace MutantRuns

-----------------------------------------------------------------------------------------
-- What a run needs, and what may be wrong
-----------------------------------------------------------------------------------------

/-- The image has all functions that are to have slots, and the points have their slots and mutants.
-/
structure Resolves (setup : MutantRuns σ) (image : Image) (points : List MutationPoint) : Prop where
  functions : ∀ function ∈ setup.source.trampolined, setup.source.has image function
  slots : ∀ point ∈ points, (setup.source.emptyTable.find? (setup.slotName point)).isSome
  mutants : ∀ point ∈ points, (image.address? (setup.mutantSymbol point)).isSome

/-- A point is looked at, with the given calls, and nothing is wrong in front of it: the program is
linked, and for the points before nothing was missing and all tests that were run could be run.
-/
structure Reaches (setup : MutantRuns σ) (image : Image) (points : List MutationPoint)
    (records : List PointRecord) (point : MutationPoint) (calls : List SandboxCall)
    : Prop where
  linked : setup.source.link = .ok image
  first
    : ∃ before after earlier later,
        points = before ++ point :: after
        ∧ records = earlier ++ ⟨point, calls⟩ :: later
        ∧ earlier.map (·.point) = before
        ∧ setup.Resolves image before
        ∧ ∀ record ∈ earlier, record.Valid

/-- The first thing that is wrong with a run: with the definitions, with the functions that are to
have slots, or else with the points in their order. At a point its slot counts before its mutant
and its mutant before its tests.
-/
inductive FirstViolation (setup : MutantRuns σ) (points : List MutationPoint)
    (records : List PointRecord)
    : TaskError → Prop
  | duplicate {error : LinkError}
      (first : Image.FirstDuplicate (Image.definitions setup.source.objects) error)
      : FirstViolation setup points records (.link error)
  | function {image : Image} {before after : List String} {missing : String}
      (linked : setup.source.link = .ok image)
      (split : setup.source.trampolined = before ++ missing :: after)
      (has : ∀ function ∈ before, setup.source.has image function)
      (lacks : ¬ setup.source.has image missing)
      : FirstViolation setup points records
          (.trampoline
            (.unresolvedFunction (setup.source.runner.mangler.mangle missing)
              (setup.source.runner.mangler.mangle (trampolineName missing))))
  | slot {image : Image} {point : MutationPoint}
      (reached : setup.Reaches image points records point [])
      (missing : setup.source.emptyTable.find? (setup.slotName point) = none)
      : FirstViolation setup points records (.trampoline (.unregistered (setup.slotName point)))
  | mutant {image : Image} {point : MutationPoint}
      (reached : setup.Reaches image points records point [])
      (registered : (setup.source.emptyTable.find? (setup.slotName point)).isSome)
      (missing : image.address? (setup.mutantSymbol point) = none)
      : FirstViolation setup points records
          (.unresolvedMutant (setup.mutantSymbol point) point.uniqueId)
  | test {image : Image} {point : MutationPoint} {ran rest : List ReachableTest}
      {next : ReachableTest} {made : List SandboxCall} {last : SandboxCall}
      {result : ExecutionResult}
      (reached : setup.Reaches image points records point (made ++ [last]))
      (registered : (setup.source.emptyTable.find? (setup.slotName point)).isSome)
      (found : (image.address? (setup.mutantSymbol point)).isSome)
      (split : point.reachableTests = ran ++ next :: rest)
      (before : made.map (·.trial.test) = ran.map (·.test))
      (valid : ∀ call ∈ made, ¬ call.Invalid) (own : last.trial.test = next.test)
      (answer : last.answer = .ok result) (invalid : result.status = .invalid)
      : FirstViolation setup points records
          (.sandboxFailed point.uniqueId next.test.id result.stderr)

/-- What the answer of a run over points says, given the records of the run. -/
structure Outcome (setup : MutantRuns σ) (points : List MutationPoint) (records : List PointRecord)
    (answer : Except TaskError (List MutationResult))
    : Prop where
  /-- The run succeeds exactly when no symbol is defined twice, nothing is missing and all tests
  that were run could be run.
  -/
  succeeds_iff
    : (∃ results, answer = .ok results)
      ↔ (Image.symbolsOf (Image.definitions setup.source.objects)).Nodup
        ∧ (∃ image, setup.source.link = .ok image ∧ setup.Resolves image points)
        ∧ ∀ record ∈ records, record.Valid
  /-- Then there is one result for every point and every test that reaches it, in order. -/
  results
    : ∀ results,
        answer = .ok results
        → results.map (·.pair) = pairsOf points ∧ records.map (·.point) = points
  /-- Otherwise the error is that of the first violation. -/
  error : ∀ error, answer = .error error → setup.FirstViolation points records error

-----------------------------------------------------------------------------------------
-- Points of a loaded program
-----------------------------------------------------------------------------------------

/-- The program of an image whose slots point at their own functions. -/
def loadedProgram (setup : MutantRuns σ) (image : Image) : LoadedProgram :=
  { image, trampolines := setup.source.fixedTable image }

variable {setup : MutantRuns σ} {image : Image} {point : MutationPoint}

/-- A point is located by its slot first and by its mutant then. -/
theorem locate_loadedProgram (setup : MutantRuns σ) (image : Image) (point : MutationPoint)
    : setup.locate (setup.loadedProgram image) point
      = match setup.source.emptyTable.find? (setup.slotName point) with
        | none => .error (.trampoline (.unregistered (setup.slotName point)))
        | some slot =>
            match image.address? (setup.mutantSymbol point) with
            | none => .error (.unresolvedMutant (setup.mutantSymbol point) point.uniqueId)
            | some address => .ok (slot.fixedUp image.address?, address) := by
  unfold locate TrampolineTable.find
  simp only [loadedProgram, ProgramSource.find?_fixedTable]
  cases setup.source.emptyTable.find? (setup.slotName point) <;> rfl

/-- A point that succeeds has its slot, its mutant and a result for every test, and all its tests
that were run could be run.
-/
theorem PointTrace.of_ok {record : PointRecord} {results : List MutationResult}
    (trace : setup.PointTrace (setup.loadedProgram image) point record (.ok results))
    : record.point = point
      ∧ record.Valid
      ∧ (setup.source.emptyTable.find? (setup.slotName point)).isSome
      ∧ (image.address? (setup.mutantSymbol point)).isSome
      ∧ results.map (·.pair) = point.reachableTests.map (point, ·) := by
  cases trace with
  | located located _ tests =>
      rw [locate_loadedProgram] at located
      cases tests with
      | finished valid pairs =>
          cases found : setup.source.emptyTable.find? (setup.slotName point) with
          | none => simp [found] at located
          | some slot =>
              cases address : image.address? (setup.mutantSymbol point) with
              | none => simp [found, address] at located
              | some _ => exact ⟨rfl, valid, rfl, rfl, pairs⟩

/-- A point that fails in a sandbox that returns is the first violation when it is reached, and it
lacks its slot or its mutant or has a test that could not be run.
-/
theorem PointTrace.of_error (returns : setup.sandbox.Returns) {record : PointRecord}
    {error : TaskError}
    (trace : setup.PointTrace (setup.loadedProgram image) point record (.error error))
    {points : List MutationPoint} {records : List PointRecord}
    (reached : ∀ calls, record = ⟨point, calls⟩ → setup.Reaches image points records point calls)
    : setup.FirstViolation points records error
      ∧ ((setup.source.emptyTable.find? (setup.slotName point)).isSome
        → (image.address? (setup.mutantSymbol point)).isSome
        → ¬ record.Valid) := by
  cases trace with
  | missing located =>
      have reached := reached [] rfl
      rw [locate_loadedProgram] at located
      cases found : setup.source.emptyTable.find? (setup.slotName point) with
      | none =>
          obtain rfl : _ = error := by simpa [found] using located
          exact ⟨.slot reached found, by simp⟩
      | some slot =>
          cases address : image.address? (setup.mutantSymbol point) with
          | some _ => simp [found, address] at located
          | none =>
              obtain rfl : _ = error := by simpa [found, address] using located
              exact ⟨.mutant reached (by simp [found]) address, by simp⟩
  | located located made tests =>
      rw [locate_loadedProgram] at located
      cases found : setup.source.emptyTable.find? (setup.slotName point) with
      | none => simp [found] at located
      | some slot =>
          cases address : image.address? (setup.mutantSymbol point) with
          | none => simp [found, address] at located
          | some _ =>
              cases tests with
              | panicked member answer =>
                  obtain ⟨state, answered⟩ := (made _ member).answered
                  obtain ⟨result, returned⟩ := returns _ _ state
                  rw [answered, returned] at answer
                  cases answer
              | stopped split before valid own answer invalid =>
                  refine ⟨.test (reached _ rfl) (by simp [found]) (by simp [address]) split before
                    valid own answer invalid, fun _ _ allValid => ?_⟩
                  exact allValid _ (by simp) ⟨_, answer, invalid⟩

/-- Points that all succeed are recorded one by one, and nothing is wrong with any of them. -/
theorem records_of_ok {points : List MutationPoint} {records : List PointRecord}
    (noted
      : List.Forall₂
          (fun point record =>
            ∃ results, setup.PointTrace (setup.loadedProgram image) point record (.ok results))
          points records)
    : records.map (·.point) = points
      ∧ (∀ record ∈ records, record.Valid)
      ∧ ∀ point ∈ points,
          (setup.source.emptyTable.find? (setup.slotName point)).isSome
          ∧ (image.address? (setup.mutantSymbol point)).isSome := by
  induction noted with
  | nil => simp
  | cons own _ ih =>
      obtain ⟨results, own⟩ := own
      obtain ⟨same, valid, slot, mutant, -⟩ := own.of_ok
      obtain ⟨others, othersValid, located⟩ := ih
      refine ⟨?_, ?_, ?_⟩
      · rw [List.map_cons, same, others]
      · exact List.forall_mem_cons.mpr ⟨valid, othersValid⟩
      · exact List.forall_mem_cons.mpr ⟨⟨slot, mutant⟩, located⟩

/-- When a run over points succeeds, the points have their slots and mutants, all tests that were
run could be run, and there is one result for every point and test.
-/
theorem trace_ok {points : List MutationPoint} {records : List PointRecord}
    {results : List MutationResult}
    (trace
      : Trace (setup.PointTrace (setup.loadedProgram image)) points records (.ok results))
    (complete : ∀ function ∈ setup.source.trampolined, setup.source.has image function)
    : setup.Resolves image points
      ∧ records.map (·.point) = points
      ∧ (∀ record ∈ records, record.Valid)
      ∧ results.map (·.pair) = pairsOf points := by
  obtain ⟨noted, blocks⟩ := trace.of_ok
  have pairs : results.map (·.pair) = pairsOf points :=
    blocks.map_eq_flatMap fun _ _ ⟨_, own⟩ => own.of_ok.2.2.2.2
  obtain ⟨own, valid, located⟩ := records_of_ok noted
  exact ⟨{
    functions := complete
    slots := fun point member => (located point member).1
    mutants := fun point member => (located point member).2
  }, own, valid, pairs⟩

/-- When a run over points fails, its error is that of the first violation. -/
theorem trace_error (returns : setup.sandbox.Returns) {points : List MutationPoint}
    {records : List PointRecord} {error : TaskError}
    (linked : setup.source.link = .ok image)
    (complete : ∀ function ∈ setup.source.trampolined, setup.source.has image function)
    (trace
      : Trace (setup.PointTrace (setup.loadedProgram image)) points records (.error error))
    : setup.FirstViolation points records error
      ∧ (setup.Resolves image points → ¬ ∀ record ∈ records, record.Valid) := by
  obtain ⟨before, point, after, earlier, record, later, outputs, rfl, rfl, front, stops⟩ :=
    trace.of_error
  obtain ⟨resolves, own, valid, -⟩ := trace_ok front complete
  have reached (calls : List SandboxCall) (same : record = ⟨point, calls⟩)
      : setup.Reaches image (before ++ point :: after) (earlier ++ record :: later) point calls
      := by
    subst same
    exact ⟨linked, before, after, earlier, later, rfl, rfl, own, resolves, valid⟩
  obtain ⟨violation, invalid⟩ := stops.of_error returns reached
  refine ⟨violation, fun resolvesAll allValid => ?_⟩
  exact invalid (resolvesAll.slots point (by simp)) (resolvesAll.mutants point (by simp))
    (allValid record (by simp))

/-- A run fails by the first violation if that keeps it from having all that it needs. -/
theorem Outcome.of_error {points : List MutationPoint} {records : List PointRecord}
    {error : TaskError} (violation : setup.FirstViolation points records error)
    (hinders
      : (Image.symbolsOf (Image.definitions setup.source.objects)).Nodup
        → ∀ image,
            setup.source.link = .ok image
            → setup.Resolves image points
            → ¬ ∀ record ∈ records, record.Valid)
    : setup.Outcome points records (.error error) where
  succeeds_iff := by
    refine ⟨by simp, ?_⟩
    rintro ⟨distinct, ⟨image, linked, resolves⟩, valid⟩
    exact absurd valid (hinders distinct image linked resolves)
  results := by simp
  error := by
    rintro _ ⟨⟩
    exact violation

/-- The outcome of a run whose program is loaded follows from its trace. -/
theorem Outcome.of_trace (returns : setup.sandbox.Returns)
    (distinct : (Image.symbolsOf (Image.definitions setup.source.objects)).Nodup)
    (linked : setup.source.link = .ok image)
    (complete : ∀ function ∈ setup.source.trampolined, setup.source.has image function)
    {points : List MutationPoint} {records : List PointRecord}
    {answer : Except TaskError (List MutationResult)}
    (trace : Trace (setup.PointTrace (setup.loadedProgram image)) points records answer)
    : setup.Outcome points records answer := by
  cases answer with
  | ok results =>
      obtain ⟨resolves, own, valid, pairs⟩ := trace_ok trace complete
      exact {
        succeeds_iff :=
          ⟨fun _ => ⟨distinct, ⟨image, linked, resolves⟩, valid⟩, fun _ => ⟨results, rfl⟩⟩
        results := by
          rintro _ ⟨⟩
          exact ⟨pairs, own⟩
        error := by simp
      }
  | error error =>
      obtain ⟨violation, invalid⟩ := trace_error returns linked complete trace
      refine .of_error violation fun _ other linkedToo resolves => ?_
      obtain rfl : image = other := Except.ok.inj (linked.symm.trans linkedToo)
      exact invalid resolves

end MutantRuns

-----------------------------------------------------------------------------------------
-- Engines
-----------------------------------------------------------------------------------------

namespace Engine

/-- A run over some points whose program cannot be loaded fails by that error. -/
theorem runMutants_of_load_error (engine : Engine σ)
    (pos : 0 < engine.configuration.counts.mutantExecution)
    (real : engine.configuration.run.dryRun = false) {points : List MutationPoint}
    (some : points ≠ []) {objects : List ObjectFile} {trampolined : List String}
    {error : TaskError}
    (failed : (engine.mutantRuns objects trampolined).source.load = .error error) (sandbox : σ)
    : (engine.runMutants points objects trampolined sandbox).1 = .error error := by
  have task : engine.mutantTask objects trampolined
      = (engine.mutantRuns objects trampolined).task :=
    if_neg (by simp [real])
  have follows : FollowsTask (fun _ : σ => True) id (engine.mutantTask objects trampolined)
      (fun _ => .error error) := by
    rw [task]
    refine ⟨fun points state some _ => ?_, fun _ _ _ _ => trivial⟩
    rw [MutantRuns.task_of_error failed, sequentially_error error some]
    rfl
  have answer := execute_replicate follows pos points sandbox trivial
  rw [seen_id, sequentially_error error some] at answer
  exact answer

/-- The outcome of a run over mutants in a sandbox that always returns a result: the run succeeds
with all its results when nothing is wrong, and fails by the first violation otherwise. The calls
of the sandbox are recorded on the way, which changes nothing.
-/
theorem runMutants_outcome (engine : Engine σ) (returns : engine.sandbox.Returns)
    (pos : 0 < engine.configuration.counts.mutantExecution)
    (real : engine.configuration.run.dryRun = false) {points : List MutationPoint}
    (some : points ≠ []) (objects : List ObjectFile) (trampolined : List String) (sandbox : σ)
    : let recorded := engine.recordMutants points objects trampolined (sandbox, [])
      engine.runMutants points objects trampolined sandbox = (recorded.1, recorded.2.1)
      ∧ (engine.mutantRuns objects trampolined).Outcome points recorded.2.2 recorded.1 := by
  intro recorded
  let setup := engine.mutantRuns objects trampolined
  have same : engine.runMutants points objects trampolined sandbox = (recorded.1, recorded.2.1) :=
    engine.runMutants_recorded points objects trampolined (sandbox, [])
  refine ⟨same, ?_⟩
  have failing {error : TaskError} (failed : setup.source.load = .error error)
      : recorded.1 = .error error := by
    rw [← engine.runMutants_of_load_error pos real some failed sandbox, same]
  rcases setup.source.link_cases with ⟨distinct, image, linked⟩ | ⟨error, duplicate, unlinked⟩
  · have loading := ProgramSource.load_of_link linked
    cases missing : setup.source.trampolined.find? (!setup.source.has image ·) with
    | some function =>
        obtain ⟨negated, before, after, split, has⟩ := List.find?_eq_some_iff_append.mp missing
        have lacks : setup.source.has image function = false := by simpa using negated
        rw [missing] at loading
        rw [failing loading]
        have violation : setup.FirstViolation points recorded.2.2 _ :=
          .function linked split (by simpa using has) (by simp [lacks])
        refine .of_error violation fun _ other linkedToo resolves => ?_
        obtain rfl : image = other := Except.ok.inj (linked.symm.trans linkedToo)
        have found := resolves.functions function (split ▸ by simp)
        exact absurd (found.symm.trans lacks) (by decide)
    | none =>
        rw [missing] at loading
        exact .of_trace returns distinct linked (by simpa using List.find?_eq_none.mp missing)
          (engine.recordMutants_trace pos real loading sandbox)
  · rw [failing (ProgramSource.load_of_link_error unlinked)]
    exact .of_error (.duplicate duplicate) fun distinct => absurd distinct duplicate.not_nodup

section

open Sample.Single

/-- The sample has a result for each of its two tests. With a second point, whose function has no
slot, the run fails because of that point, although the tests of the first one were run.
-/
theorem single_runMutants_outcome
    : let other : MutationPoint := { point with function := "two" }
      let error : TaskError := .trampoline (.unregistered "_two_trampoline")
      let recorded (points : List MutationPoint) :=
        engineByName.recordMutants points objects ["one"] ((), [])
      engineByName.sandbox.Returns
      ∧ (∃ results,
          (engineByName.runMutants [reachedPoint] objects ["one"] ()).1 = .ok results
          ∧ results.map (·.pair) = pairsOf [reachedPoint])
      ∧ (engineByName.runMutants [reachedPoint, other] objects ["one"] ()).1 = .error error
      ∧ (engineByName.mutantRuns objects ["one"]).FirstViolation [reachedPoint, other]
          (recorded [reachedPoint, other]).2.2 error := by
  intro other error recorded
  have returns : engineByName.sandbox.Returns := fun _ _ _ => ⟨_, rfl⟩
  obtain ⟨same, outcome⟩ :=
    runMutants_outcome engineByName returns (by decide) rfl (List.cons_ne_nil reachedPoint [])
      objects ["one"] ()
  obtain ⟨sameToo, outcomeToo⟩ :=
    runMutants_outcome engineByName returns (by decide) rfl (List.cons_ne_nil reachedPoint [other])
      objects ["one"] ()
  obtain ⟨results, succeeded⟩ : ∃ results, (recorded [reachedPoint]).1 = .ok results := ⟨_, rfl⟩
  have failed : (recorded [reachedPoint, other]).1 = .error error := by decide
  refine ⟨returns, ⟨results, ?_, (outcome.results results succeeded).1⟩, ?_, ?_⟩
  · rw [same]
    exact succeeded
  · rw [sameToo]
    exact failed
  · exact outcomeToo.error error failed

end

end Engine

end MutationTesting
