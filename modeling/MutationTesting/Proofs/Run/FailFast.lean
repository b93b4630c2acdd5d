import MutationTesting.Proofs.Run.PointBlocks
import MutationTesting.Sample.Single

/-! Skipping the tests of a mutant after the first one that kills it does not change what is said
about any mutant. A skipped test counts as a kill, and it is skipped only where a test of the
same point has killed the mutant already, which then does so in the full run as well.
-/

namespace MutationTesting

-----------------------------------------------------------------------------------------
-- Two runs side by side
-----------------------------------------------------------------------------------------

/-- A test was skipped in one run, or it ended in the same way in both. -/
def SkippedOrSame (quick slow : MutationResult) : Prop :=
  quick.result.status = .failFast ∨ quick.result.status = slow.result.status

/-- A run that skips tests kills the same mutants, by induction up to the first kill, which both
runs have.
-/
theorem SkipsAfterKill.agreeOnKills {fast full : List ExecutionStatus}
    (skips : SkipsAfterKill true false fast) (decided : ∀ status ∈ full, status.Decided)
    (agree : List.Forall₂ (fun quick slow => quick = .failFast ∨ quick = slow) fast full)
    : AgreeOnKills fast full := by
  induction agree with
  | nil => exact .refl []
  | @cons quick slow fast full same _ ih =>
      have ran : quick.Decided := skips.1
      obtain rfl : quick = slow := same.resolve_left ran.ne_failFast
      cases passes : quick.isPassed with
      | true =>
          have later : SkipsAfterKill true false fast := by
            simpa [passes] using skips.2
          have others := ih later fun status member =>
            decided status (List.mem_cons_of_mem quick member)
          exact AgreeOnKills.append (.refl [quick]) others
      | false =>
          have kills : quick.kills = true := by simp [ran.kills, passes]
          exact ⟨by simp [kills], by simp [kills]⟩

/-- The block of a point belongs to one mutant. -/
theorem PointBlock.statusesOf {failFast : Bool} {point : MutationPoint}
    {results : List MutationResult} (block : PointBlock failFast point results) (id : String)
    : MutationTesting.statusesOf results id
      = if point.uniqueId = id then results.map (·.result.status) else [] := by
  have own : ∀ result ∈ results, result.point = point := by
    intro result member
    have listed : result.pair ∈ point.reachableTests.map (point, ·) :=
      block.pairs ▸ List.mem_map_of_mem member
    obtain ⟨reachable, -, same⟩ := List.mem_map.mp listed
    exact (congrArg Prod.fst same).symm
  unfold MutationTesting.statusesOf
  split
  · rename_i same
    rw [List.filter_eq_self.mpr fun result member => by simp [own result member, same]]
  · rename_i different
    rw [List.filter_eq_nil_iff.mpr fun result member => by simp [own result member, different]]
    rfl

/-- Every mutant is killed in both runs or has the same statuses in both.
Witness: induction on the points, whose blocks agree one by one; several blocks may belong to
the same mutant.
-/
theorem InBlocks.agreeOnKills {points : List MutationPoint} {fast full : List MutationResult}
    (quick : InBlocks (PointBlock true) points fast)
    (slow : InBlocks (PointBlock false) points full)
    (agree : List.Forall₂ SkippedOrSame fast full) (id : String)
    : AgreeOnKills (statusesOf fast id) (statusesOf full id) := by
  induction points generalizing fast full with
  | nil =>
      rw [quick.of_nil, slow.of_nil]
      exact .refl []
  | cons point rest ih =>
      obtain ⟨first, more, rfl, own, quick⟩ := quick.uncons
      obtain ⟨second, others, rfl, ownToo, slow⟩ := slow.uncons
      have size : first.length = second.length := by
        simpa using congrArg List.length (own.pairs.trans ownToo.pairs.symm)
      obtain ⟨front, back⟩ := forall₂_split agree size
      have joined (left right : List MutationResult)
          : statusesOf (left ++ right) id = statusesOf left id ++ statusesOf right id := by
        simp [statusesOf]
      rw [joined, joined, own.statusesOf, ownToo.statusesOf]
      refine .append ?_ (ih quick slow back)
      split
      · refine own.statuses.agreeOnKills ownToo.statuses.decided ?_
        exact List.forall₂_map_left_iff.mpr (List.forall₂_map_right_iff.mpr front)
      · exact .refl []

-----------------------------------------------------------------------------------------
-- Engines
-----------------------------------------------------------------------------------------

/-- The same engine, told whether to skip tests after a kill. -/
def Engine.withFailFast (engine : Engine σ) (failFast : Bool) : Engine σ :=
  { engine with configuration.run.failFast := failFast }

/-- The results say of every pair that was run what is assigned to it; pairs are numbered in the
order in which they are run.
-/
def FollowsAssignment (assigned : Nat → ExecutionStatus) (results : List MutationResult) : Prop :=
  ∀ index status,
    (results.map (·.result.status))[index]? = some status
    → status ≠ .failFast
    → status = assigned index

/-- Where no test was skipped, the other run follows the same assignment unless it skips. -/
theorem FollowsAssignment.skippedOrSame {assigned : Nat → ExecutionStatus}
    {fast full : List MutationResult} (quick : FollowsAssignment assigned fast)
    (slow : FollowsAssignment assigned full) (size : fast.length = full.length)
    (ran : ∀ result ∈ full, result.result.status ≠ .failFast)
    : List.Forall₂ SkippedOrSame fast full := by
  refine List.forall₂_iff_get.mpr ⟨size, fun index inFast inFull => ?_⟩
  by_cases skipped : (fast.get ⟨index, inFast⟩).result.status = .failFast
  · exact .inl skipped
  · have here := quick index _ (by simp [inFast]) skipped
    have there := slow index _ (by simp [inFull]) (ran _ (List.get_mem full ⟨index, inFull⟩))
    exact .inr (here.trans there.symm)

namespace Engine

/-- Skipping tests after a kill does not change a verdict. When all mutants are found, the run
that skips and the run that does not are about the same pairs; and whenever the pairs that are
run end in the same way in both, their summaries have the same mutants with the same verdicts.
-/
theorem withFailFast_sameVerdicts (engine : Engine σ) (decides : engine.sandbox.Decides)
    (pos : 0 < engine.configuration.counts.mutantExecution) (points : List MutationPoint)
    (objects : List ObjectFile) (trampolined : List String)
    (resolves
      : ∃ program,
          (engine.mutantRuns objects trampolined).source.load = .ok program
          ∧ ∀ point ∈ points,
              ∃ place, (engine.mutantRuns objects trampolined).locate program point = .ok place)
    (first second : σ)
    : ∃ fast full,
        ((engine.withFailFast true).runMutants points objects trampolined first).1 = .ok fast
        ∧ ((engine.withFailFast false).runMutants points objects trampolined second).1 = .ok full
        ∧ fast.map (·.pair) = pairsOf points
        ∧ full.map (·.pair) = pairsOf points
        ∧ ∀ assigned,
            FollowsAssignment assigned fast
            → FollowsAssignment assigned full
            → (Summary.ofResults fast).SameVerdicts (Summary.ofResults full) := by
  cases planned : engine.configuration.run.dryRun with
  | true =>
      have pairs
          : (points.flatMap fun point =>
                point.reachableTests.map
                  (plannedRun engine.configuration.run.timeouts point)).map (·.pair)
            = pairsOf points := by
        rw [List.map_flatMap]
        simp only [List.map_map]
        rfl
      have listed (failFast : Bool) (sandbox : σ) :=
        runMutants_dryRun (engine.withFailFast failFast) pos planned points objects trampolined
          sandbox
      exact ⟨_, _, listed true first, listed false second, pairs, pairs,
        fun _ _ _ => .of_mutants rfl⟩
  | false =>
      obtain ⟨program, loaded, places⟩ := resolves
      have blocks (failFast : Bool) (sandbox : σ) :=
        runMutants_blocks (engine.withFailFast failFast) decides pos planned loaded places sandbox
      obtain ⟨fast, ranFast, quick⟩ := blocks true first
      obtain ⟨full, ranFull, slow⟩ := blocks false second
      refine ⟨fast, full, ranFast, ranFull, quick.pairs, slow.pairs, ?_⟩
      intro assigned followsFast followsFull
      have pairs := quick.pairs.trans slow.pairs.symm
      have size : fast.length = full.length := by simpa using congrArg List.length pairs
      have agree := followsFast.skippedOrSame followsFull size fun result member =>
        (slow.decided result member).ne_failFast
      exact Summary.ofResults_sameVerdicts pairs (quick.agreeOnKills slow agree)

section

open Sample.Single

/-- The first test of the sample kills the mutant, and the second one is skipped or passes. -/
theorem single_withFailFast_sameVerdicts
    : engineByName.sandbox.Decides
      ∧ ∃ fast full,
          ((engineByName.withFailFast true).runMutants [reachedPoint] objects ["one"] ()).1
            = .ok fast
          ∧ ((engineByName.withFailFast false).runMutants [reachedPoint] objects ["one"] ()).1
              = .ok full
          ∧ fast.map (·.result.status) = [.failed, .failFast]
          ∧ full.map (·.result.status) = [.failed, .passed]
          ∧ (Summary.ofResults fast).SameVerdicts (Summary.ofResults full) := by
  have decides : engineByName.sandbox.Decides := by
    intro trial timeout state
    refine ⟨_, rfl, ?_⟩
    by_cases first : trial.test.id = "first" <;> simp [first, ExecutionStatus.Decided]
  have resolves : ∃ program,
      (engineByName.mutantRuns objects ["one"]).source.load = .ok program
      ∧ ∀ point ∈ [reachedPoint],
          ∃ place, (engineByName.mutantRuns objects ["one"]).locate program point = .ok place := by
    refine ⟨program, rfl, ?_⟩
    rw [List.forall_mem_singleton]
    exact ⟨(slot, .ofIndex 1), rfl⟩
  obtain ⟨fast, full, ranFast, ranFull, -, -, same⟩ :=
    withFailFast_sameVerdicts engineByName decides (by decide) [reachedPoint] objects ["one"]
      resolves () ()
  have statuses (failFast : Bool)
      : ((engineByName.withFailFast failFast).runMutants [reachedPoint] objects ["one"] ()).1.map
            (List.map (·.result.status))
          = .ok [.failed, if failFast then .failFast else .passed] := by
    cases failFast <;> decide
  have quick : fast.map (·.result.status) = [.failed, .failFast] := by
    simpa [ranFast, Except.map] using statuses true
  have slow : full.map (·.result.status) = [.failed, .passed] := by
    simpa [ranFull, Except.map] using statuses false
  refine ⟨decides, fast, full, ranFast, ranFull, quick, slow,
    same (fun index => if index = 0 then .failed else .passed) ?_ ?_⟩
  · intro index status found ran
    rw [quick] at found
    match index with
    | 0 => simpa using found.symm
    | 1 => exact absurd (by simpa using found.symm) ran
    | _ + 2 => simp at found
  · intro index status found _
    rw [slow] at found
    match index with
    | 0 => simpa using found.symm
    | 1 => simpa using found.symm
    | _ + 2 => simp at found

end

end Engine

end MutationTesting
