import MutationTesting.Proofs.Run.PointRuns
import MutationTesting.Proofs.Scheduling.SequentialPass
import MutationTesting.Sample.Single

/-! At most one mutant is in place at any time, and none between two points. The calls that the
sandbox gets are noted together with the points that they are made for; noting them changes
nothing else about a run.
-/

namespace MutationTesting

-----------------------------------------------------------------------------------------
-- Programs with one mutant in place
-----------------------------------------------------------------------------------------

/-- The slot of one name leads to a mutant, and every other slot to its own function. -/
structure LoadedProgram.SoleMutant (program : LoadedProgram) (name : String) (address : Address)
    : Prop where
  placed : ∃ slot ∈ program.trampolines.slots, slot.name = name
  mutant : ∀ slot ∈ program.trampolines.slots, slot.name = name → slot.target = some address
  others : ∀ slot ∈ program.trampolines.slots, slot.name ≠ name → program.HoldsOriginal slot

/-- Activating a mutant in a program without mutants makes it the only one. -/
theorem LoadedProgram.Ready.withMutant {program : LoadedProgram} (ready : program.Ready)
    {name : String} {slot : Slot} (found : program.trampolines.find? name = some slot)
    (address : Address)
    : (program.withMutant slot address).SoleMutant name address := by
  obtain rfl := TrampolineTable.find?_name found
  have slots : (program.withMutant slot address).trampolines.slots
      = program.trampolines.slots.map fun other =>
          if other.name = slot.name then { other with target := some address } else other :=
    rfl
  refine {
    placed := ?_
    mutant := fun other member same => ?_
    others := fun other member different => ?_
  }
  · rw [slots]
    exact ⟨_, List.mem_map.mpr ⟨slot, TrampolineTable.mem_of_find? found, rfl⟩, by simp⟩
  · rw [slots] at member
    obtain ⟨before, -, rfl⟩ := List.mem_map.mp member
    by_cases occupied : before.name = slot.name
    · simp [occupied]
    · simp [occupied] at same
  · rw [slots] at member
    obtain ⟨before, there, rfl⟩ := List.mem_map.mp member
    by_cases occupied : before.name = slot.name
    · simp [occupied] at different
    · simp only [occupied, if_false]
      exact ⟨(ready.original before there).reaches, (ready.original before there).original⟩

-----------------------------------------------------------------------------------------
-- Noting the calls of a sandbox
-----------------------------------------------------------------------------------------

/-- A call that a sandbox gets, and the point that it is made for. -/
structure NotedCall where
  point : MutationPoint
  trial : Trial
  timeout : Duration

/-- The sandbox with a list of its calls, all of which are made for one point. -/
def Sandbox.noting (sandbox : Sandbox σ) (point : MutationPoint)
    : Sandbox (σ × List NotedCall) where
  name := sandbox.name
  run trial timeout := fun state =>
    let ran := sandbox.run trial timeout state.1
    (ran.1, (ran.2, state.2 ++ [{ point, trial, timeout }]))

def Bench.withoutCalls (bench : Bench (σ × List NotedCall)) : Bench σ :=
  { program := bench.program, sandbox := bench.sandbox.1 }

def Bench.calls (bench : Bench (σ × List NotedCall)) : List NotedCall := bench.sandbox.2

namespace MutantRuns

/-- The same runs with the calls of the sandbox noted as made for a point. -/
def noting (setup : MutantRuns σ) (point : MutationPoint) : MutantRuns (σ × List NotedCall) :=
  {
    source := setup.source
    sandbox := setup.sandbox.noting point
    timeouts := setup.timeouts
    failFast := setup.failFast
  }

/-- Runs points one after the other with the calls of the sandbox noted. -/
def runNoted (setup : MutantRuns σ)
    : List MutationPoint
      → StateM (Bench (σ × List NotedCall)) (TaskOutcome MutationResult) :=
  Task.ofItems fun point => (setup.noting point).runPoint point

/-- The call happens in the given program with the mutant of its point as the only one in place.
-/
def RunsAlone (setup : MutantRuns σ) (program : LoadedProgram) (call : NotedCall) : Prop :=
  call.trial.program.image = program.image
  ∧ ∃ address,
      program.image.address? (setup.mutantSymbol call.point) = some address
      ∧ call.trial.program.SoleMutant (setup.slotName call.point) address

-----------------------------------------------------------------------------------------
-- Noting calls changes nothing
-----------------------------------------------------------------------------------------

theorem runPoint_withoutCalls (setup : MutantRuns σ) (point : MutationPoint)
    (bench : Bench (σ × List NotedCall))
    : setup.runPoint point bench.withoutCalls
      = let noted := (setup.noting point).runPoint point bench
        (noted.1, noted.2.withoutCalls) := by
  have acts : (setup.sandbox.noting point).ActsLike setup.sandbox Prod.fst := fun _ _ _ => rfl
  exact runPoint_view acts point bench

-----------------------------------------------------------------------------------------
-- The calls that are noted
-----------------------------------------------------------------------------------------

variable (setup : MutantRuns σ) {point : MutationPoint}

/-- The call for the next test is made for its point in the program at hand. -/
theorem nextResult_calls {holds : NotedCall → Prop} (isKilled : Bool) (reachable : ReachableTest)
    (bench : Bench (σ × List NotedCall))
    (made : ∀ call, call.point = point → call.trial.program = bench.program → holds call)
    (noted : ∀ call ∈ bench.calls, holds call)
    : ∀ call ∈ ((setup.noting point).nextResult isKilled reachable bench).2.calls,
        holds call := by
  cases skips : (setup.noting point).failFast && isKilled with
  | true =>
      rw [nextResult_skip _ skips]
      exact noted
  | false =>
      rw [nextResult_run _ skips]
      intro call member
      rcases List.mem_append.mp member with before | last
      · exact noted call before
      · rw [List.mem_singleton.mp last]
        exact made _ rfl rfl

/-- Whatever holds of every call that is made for a point in the program at hand holds of all
calls that are noted while its tests run.
-/
theorem runTests_calls {holds : NotedCall → Prop} (isKilled : Bool) (tests : List ReachableTest)
    (bench : Bench (σ × List NotedCall))
    (made : ∀ call, call.point = point → call.trial.program = bench.program → holds call)
    (noted : ∀ call ∈ bench.calls, holds call)
    : ∀ call ∈ ((setup.noting point).runTests point isKilled tests bench).2.calls,
        holds call := by
  refine (runTests_invariant
    (fun next => next.program = bench.program ∧ ∀ call ∈ next.calls, holds call)
    (fun isKilled reachable next valid => ⟨?_, ?_⟩) isKilled tests bench ⟨rfl, noted⟩).2
  · exact ((setup.noting point).nextResult_program isKilled reachable next).trans valid.1
  · exact nextResult_calls setup isKilled reachable next
      (fun call own during => made call own (during.trans valid.1)) valid.2

/-- While a point runs in a program without mutants, its own mutant is the only one in place. -/
theorem runPoint_calls {holds : NotedCall → Prop} {program : LoadedProgram}
    (ready : program.Ready) (sandbox : σ × List NotedCall)
    (made : ∀ call, call.point = point → setup.RunsAlone program call → holds call)
    (noted : ∀ call ∈ sandbox.2, holds call)
    : ∀ call ∈ ((setup.noting point).runPoint point { program, sandbox }).2.calls, holds call := by
  cases located : (setup.noting point).locate program point with
  | error error =>
      rw [runPoint_error located]
      exact noted
  | ok place =>
      obtain ⟨found, symbol⟩ := mem_of_locate located
      rw [runPoint_located located]
      refine runTests_calls setup false point.reachableTests _ (fun call own during => ?_) noted
      refine made call own ⟨by rw [during]; rfl, place.2, ?_, ?_⟩
      · rw [own]
        exact symbol
      · rw [own, during]
        exact ready.withMutant found place.2

/-- Running points of a program without mutants leaves the program as it was, and in every call on
the way the mutant of the point is the only one in place. By induction on the points.
-/
theorem runNoted_calls {program : LoadedProgram} (ready : program.Ready)
    (points : List MutationPoint) (sandbox : σ)
    : let noted := setup.runNoted points { program, sandbox := (sandbox, []) }
      noted.2.program = program
      ∧ ∀ call ∈ noted.2.calls, call.point ∈ points ∧ setup.RunsAlone program call := by
  refine Task.ofItems_invariant
    (fun bench : Bench (σ × List NotedCall) =>
      bench.program = program
      ∧ ∀ call ∈ bench.calls, call.point ∈ points ∧ setup.RunsAlone program call)
    ?_ ⟨rfl, by simp [Bench.calls]⟩
  rintro point member ⟨program, state⟩ ⟨rfl, noted⟩
  refine ⟨runPoint_program ready.distinct, ?_⟩
  exact runPoint_calls setup ready state
    (fun call own alone => ⟨own ▸ member, alone⟩) noted

/-- However a shard of points ends, at most one mutant is in place at any time. Whenever the
sandbox is called for a point, the slot of the point leads to its mutant and every other slot to
its own function; and wherever the shard is cut between two points, and at its end, all slots
lead to their own functions.
-/
theorem runShard_soleMutant (setup : MutantRuns σ) (program : LoadedProgram)
    (loaded : setup.source.load = .ok program) (held : Option LoadedProgram)
    (atHand : held = none ∨ held = some program) (points : List MutationPoint) (sandbox : σ)
    : let start : Bench (σ × List NotedCall) := { program, sandbox := (sandbox, []) }
      let noted := setup.runNoted points start
      let kept :=
        match noted.1.stop with
        | some (.panicked _) => none
        | _ => some program
      program.Ready
      ∧ setup.runShard held points sandbox = ((noted.1, kept), noted.2.withoutCalls.sandbox)
      ∧ (∀ call ∈ noted.2.calls, call.point ∈ points ∧ setup.RunsAlone program call)
      ∧ ∀ before after,
          points = before ++ after
          → let part := setup.runNoted before start
            part.2.program = program
            ∧ noted.2
              = if part.1.stop.isSome then part.2 else (setup.runNoted after part.2).2 := by
  intro start noted kept
  have ready := ProgramSource.load_ready loaded
  obtain ⟨restored, calls⟩ := runNoted_calls setup ready points sandbox
  refine ⟨ready, ?_, calls, fun before after split => ⟨?_, ?_⟩⟩
  · have atWork : held.elim setup.source.load .ok = .ok program := by
      rcases atHand with rfl | rfl
      · exact loaded
      · rfl
    have ran : Task.ofItems setup.runPoint points { program, sandbox }
        = (noted.1, noted.2.withoutCalls) :=
      Task.ofItems_view Bench.withoutCalls (runPoint_withoutCalls setup) points start
    have unchanged : noted.2.withoutCalls.program = program := restored
    simp only [runShard, atWork, ran, unchanged]
    rfl
  · exact (runNoted_calls setup ready before sandbox).1
  · subst split
    exact Task.ofItems_append _ before after start

section

open Sample.Single

/-- A shard that has the point of the sample twice: the sandbox gets four calls, all of them with
the mutant as the only one in place.
-/
theorem single_runShard_soleMutant
    : let noted := runs.runNoted [reachedPoint, reachedPoint] { program, sandbox := ({}, []) }
      runs.source.load = .ok program
      ∧ noted.2.calls.length = 4
      ∧ (∀ call ∈ noted.2.calls,
          call.point ∈ [reachedPoint, reachedPoint] ∧ runs.RunsAlone program call)
      ∧ (runs.runShard none [reachedPoint, reachedPoint] {}).1.2 = some program := by
  intro noted
  have loaded : runs.source.load = .ok program := rfl
  obtain ⟨-, same, calls, -⟩ :=
    runShard_soleMutant runs program loaded none (.inl rfl) [reachedPoint, reachedPoint] {}
  refine ⟨loaded, by decide, calls, ?_⟩
  rw [same]
  rfl

end

end MutantRuns

end MutationTesting
