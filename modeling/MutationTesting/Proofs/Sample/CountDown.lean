import MutationTesting.Proofs.Program.Countdown
import MutationTesting.Proofs.Recording.AnsweringHooks
import MutationTesting.Proofs.Run.LoadedCalls
import MutationTesting.Sample.Program

/-! Counting down in the sample program. Each step of the loop is a call through a trampoline, so
that the slot decides whether one or two is taken away. Either way the loop comes to its end from
every 64-bit integer, with the number of its steps.
-/

namespace MutationTesting

-----------------------------------------------------------------------------------------
-- The loop and its steps
-----------------------------------------------------------------------------------------

namespace Sample

/-- Calls reach both hooks, and by way of the trampoline the code that takes an amount away. -/
structure Decrements (program : LoadedProgram) (hooks : Hooks) (amount : Int64) : Prop where
  enters : program.callee (.symbol Hooks.enterSymbol) = .ok hooks.enter
  leaves : program.callee (.symbol Hooks.leaveSymbol) = .ok hooks.leave
  decrement
    : program.callee (.symbol (trampolineName "decrement"))
      = .ok (instrumented "decrement" (less amount))

variable {program : LoadedProgram} {hooks : Hooks} {effects : HookEffects} {amount : Int64}

theorem Decrements.hooked (decrements : Decrements program hooks amount)
    (answer : hooks.Answer effects) {number : Nat} (small : number < UInt32.size) (depth : Nat)
    : CallHandler.Hooked (program.callWithin (depth + 1)) effects number := by
  constructor <;> intro process
  · rw [LoadedProgram.callWithin, decrements.enters]
    exact answer.enter _ process number small
  · rw [LoadedProgram.callWithin, decrements.leaves]
    exact answer.leave _ process number small

/-- An amount is taken away from a value. -/
theorem eval_less (call : CallHandler) {value : Int64} (positive : 0 < amount) (more : 0 < value)
    (process : ProcessState)
    : (less amount).eval call [value] process = (.ok (value - amount), process) := by
  simp only [less, Body.eval, Body.operandAt, List.getElem?_cons_zero, pure_bind]
  rw [Body.checked_sub_of_pos positive more]
  rfl

/-- Each step of the loop takes the amount away, if calls may nest two levels deep. -/
theorem Decrements.lessens (decrements : Decrements program hooks amount)
    (answer : hooks.Answer effects) (positive : 0 < amount) (depth : Nat)
    : Body.Lessens
        (fun value =>
          (callThrough "decrement" [.operand 0]).eval (program.callWithin (depth + 2)) [value])
        amount (effects.around (numberOf "decrement")) := by
  intro value process more
  have small : numberOf "decrement" < UInt32.size := by decide
  have hooked := decrements.hooked answer small depth
  have taken :=
    eval_less (program.callWithin (depth + 1)) positive more
      (effects.entered (numberOf "decrement") process)
  have step
      : (callThrough "decrement" [.operand 0]).eval (program.callWithin (depth + 2)) [value]
        = program.callWithin (depth + 2) (.symbol (trampolineName "decrement")) [value] := by
    simp [callThrough, Body.eval, Body.evalAll, Body.operandAt]
  dsimp only
  rw [step, LoadedProgram.callWithin_of_callee decrements.decrement]
  exact Body.eval_instrumented hooked taken

/-- The loop comes back with the number of its steps from any 64-bit integer. -/
theorem Decrements.eval_countDown (decrements : Decrements program hooks amount)
    (answer : hooks.Answer effects) (positive : 0 < amount) (depth : Nat) (start : Int64)
    (process : ProcessState)
    : countDown.eval (program.callWithin (depth + 2)) [start] process
      = (.ok (.ofNat (Body.stepsDown amount start)),
          (effects.around (numberOf "decrement"))^[Body.stepsDown amount start] process) := by
  have counted :=
    Body.countdown_of_lessens positive (decrements.lessens answer positive depth)
      (Body.stepsDown_le positive start) 0 process
  rw [Int64.zero_add] at counted
  simp only [countDown, Body.eval, Body.operandAt, List.getElem?_cons_zero, pure_bind]
  exact counted

/-- What a call of the count-down leaves behind after a number of steps. -/
def afterCount (effects : HookEffects) (steps : Nat) (process : ProcessState) : ProcessState :=
  effects.left (numberOf "count_down")
    ((effects.around (numberOf "decrement"))^[steps]
      (effects.entered (numberOf "count_down") process))

theorem Decrements.call_countDown (decrements : Decrements program hooks amount)
    (answer : hooks.Answer effects) (positive : 0 < amount) {target : CallTarget}
    (reached : program.callee target = .ok (instrumented "count_down" countDown)) (start : Int64)
    (process : ProcessState)
    : program.call target [start] process
      = (.ok (.ofNat (Body.stepsDown amount start)),
          afterCount effects (Body.stepsDown amount start) process) := by
  -- Calls nest three levels deep: the count-down, its steps, and their hooks.
  have small : numberOf "count_down" < UInt32.size := by decide
  have hooked := decrements.hooked answer small (LoadedProgram.deepestCall - 2)
  have counted :=
    decrements.eval_countDown answer positive (LoadedProgram.deepestCall - 3) start
      (effects.entered (numberOf "count_down") process)
  rw [LoadedProgram.call_of_callee reached]
  exact Body.eval_instrumented hooked counted

-----------------------------------------------------------------------------------------
-- The loaded program
-----------------------------------------------------------------------------------------

/-- The sample program as it is loaded with the given hooks: silent ones where tests are run, and
recording ones where it is found out what they reach.
-/
def source (hooks : Hooks) : ProgramSource :=
  { runner := hooks.install {}, objects, trampolined }

example : source .silent = { runner, objects, trampolined } := rfl

example (tests : List UnitTest) : source .recording = (pipeline tests).discoverySource := rfl

theorem objects_distinct : (Image.symbolsOf (Image.definitions objects)).Nodup := by
  decide +kernel

theorem source_complete (hooks : Hooks) : (source hooks).Complete where
  distinct := objects_distinct
  defined := by
    simp only [source, trampolined, List.forall_mem_cons]
    exact ⟨⟨_, rfl⟩, ⟨_, rfl⟩, ⟨_, rfl⟩, ⟨_, rfl⟩, ⟨_, rfl⟩, nofun⟩

theorem decrement_trampolined (hooks : Hooks) : "decrement" ∈ (source hooks).trampolined := by
  simp [source, trampolined]

theorem count_down_trampolined (hooks : Hooks)
    : "count_down" ∈ (source hooks).trampolined := by
  simp [source, trampolined]

/-- The point at which another constant is taken away. -/
def decrementPoint : MutationPoint :=
  (mutant "decrement" ⟨3, 0, 0⟩ .scalarValue "%sub = sub nsw i64 %n, 1" 19 14 (less 2)).point

theorem meaning?_decrementPoint (hooks : Hooks)
    : (source hooks).meaning? decrementPoint.mutatedFunctionName
      = some (.function (instrumented "decrement" (less 2))) :=
  rfl

/-- Neither the hooks nor the count-down are reached by way of the slot of the point. -/
theorem meaning?_ne_decrementSlot (hooks : Hooks) {name : String}
    (other
      : name
        ∈ [Hooks.enterSymbol, Hooks.leaveSymbol, "count_down", trampolineName "count_down"])
    : (source hooks).meaning? name ≠ some (.slot (.own decrementPoint.trampoline)) := by
  have code {name : String} (body : Body)
      (means : (source hooks).meaning? name = some (.function body))
      : (source hooks).meaning? name ≠ some (.slot (.own decrementPoint.trampoline)) := by
    rw [means]
    exact nofun
  simp only [List.mem_cons, List.not_mem_nil, or_false] at other
  rcases other with rfl | rfl | rfl | rfl
  · exact code hooks.enter rfl
  · exact code hooks.leave rfl
  · exact code (instrumented "count_down" countDown) rfl
  · intro same
    have slots : SlotRef.own (trampolineName "count_down") = .own decrementPoint.trampoline :=
      Resolution.slot.inj (Option.some.inj same)
    exact absurd slots (by decide)

/-- The count-down is called by its name or through its trampoline. -/
def CallsCountDown (target : CallTarget) : Prop :=
  target = .symbol "count_down" ∨ target = .symbol (trampolineName "count_down")

section

variable (loaded : (source hooks).load = .ok program)

include loaded

/-- In the loaded program one is taken away, as all slots hold their own functions. -/
theorem decrements_of_load : Decrements program hooks 1 where
  enters := ProgramSource.callee_of_load loaded rfl
  leaves := ProgramSource.callee_of_load loaded rfl
  decrement :=
    ProgramSource.callee_trampoline_of_load loaded (decrement_trampolined hooks) rfl rfl

theorem callee_countDown {target : CallTarget} (calls : CallsCountDown target)
    : program.callee target = .ok (instrumented "count_down" countDown) := by
  rcases calls with rfl | rfl
  · exact ProgramSource.callee_of_load loaded rfl
  · exact ProgramSource.callee_trampoline_of_load loaded (count_down_trampolined hooks) rfl rfl

/-- The program has the slot of the point and its mutant. -/
theorem exists_decrementMutant
    : ∃ slot address,
        program.trampolines.find decrementPoint.trampoline = .ok slot
        ∧ program.image.address? decrementPoint.mutatedFunctionName = some address := by
  have found := ProgramSource.find?_of_load loaded (decrement_trampolined hooks)
  have means := (ProgramSource.meaning?_of_load loaded).2 decrementPoint.mutatedFunctionName
  obtain ⟨address, lies, -⟩ :=
    Image.address_of_meaning (means.trans (meaning?_decrementPoint hooks))
  exact ⟨_, address, TrampolineTable.find_eq_ok_iff.mpr found, lies⟩

variable {slot : Slot} {address : Address}
  (found : program.trampolines.find decrementPoint.trampoline = .ok slot)

include found

/-- The hooks and the count-down are reached as without the mutant. -/
theorem callee_withMutant {name : String}
    (other
      : name
        ∈ [Hooks.enterSymbol, Hooks.leaveSymbol, "count_down", trampolineName "count_down"])
    : (program.withMutant slot address).callee (.symbol name)
      = program.callee (.symbol name) := by
  obtain ⟨sound, means⟩ := ProgramSource.meaning?_of_load loaded
  refine LoadedProgram.callee_withMutant_of_ne sound (TrampolineTable.find_eq_ok_iff.mp found) ?_
    address
  rw [means]
  exact meaning?_ne_decrementSlot hooks other

theorem callee_countDown_withMutant {target : CallTarget} (calls : CallsCountDown target)
    : (program.withMutant slot address).callee target
      = .ok (instrumented "count_down" countDown) := by
  rw [← callee_countDown loaded calls]
  rcases calls with rfl | rfl <;> exact callee_withMutant loaded found (by simp)

/-- With the mutant in the slot two are taken away. -/
theorem decrements_withMutant
    (lies : program.image.address? decrementPoint.mutatedFunctionName = some address)
    : Decrements (program.withMutant slot address) hooks 2 := by
  have own := TrampolineTable.find_eq_ok_iff.mp found
  have unmutated := decrements_of_load loaded
  obtain ⟨sound, means⟩ := ProgramSource.meaning?_of_load loaded
  obtain ⟨body, there, meaning⟩ := sound.meaning?_of_address lies
  rw [means, meaning?_decrementPoint] at meaning
  obtain rfl := Resolution.function.inj (Option.some.inj meaning)
  exact {
    enters := (callee_withMutant loaded found (by simp)).trans unmutated.enters
    leaves := (callee_withMutant loaded found (by simp)).trans unmutated.leaves
    decrement := by
      have bound
          : program.image.meaning? decrementPoint.trampoline
            = some (.slot (.own decrementPoint.trampoline)) :=
        (means _).trans rfl
      have reached := LoadedProgram.callee_withMutant_self sound bound own address
      rw [LoadedProgram.bodyAt, there] at reached
      exact reached
  }

end

/-- The count-down comes to its end from every 64-bit integer, called by its name or through its
trampoline, and in whatever process. While all slots hold their own functions, it comes back with
the integer itself, or with zero if that is negative. With the mutant of the decrement in place it
comes back with half of this, rounded up. So the mutant goes unnoticed if the integer is at most
one, and is told by the value that comes back otherwise.
-/
theorem countDown_ends (hooks : Hooks) (known : hooks = .silent ∨ hooks = .recording)
    : ∃ program point slot address,
        (source hooks).load = .ok program
        ∧ program.Ready
        ∧ points.filter (fun point =>
            point.function == "decrement" && point.mutator == .scalarValue) = [point]
        ∧ program.trampolines.find point.trampoline = .ok slot
        ∧ program.image.address? point.mutatedFunctionName = some address
        ∧ ∀ target,
            CallsCountDown target
            → ∀ start,
                let original := program.call target [start]
                let mutated := (program.withMutant slot address).call target [start]
                (∃ count,
                  count.toInt = max start.toInt 0
                  ∧ ∀ process, (original process).1 = .ok count)
                ∧ (∃ count,
                  count.toInt = ⌈((max start.toInt 0 : ℤ) : ℚ) / 2⌉
                  ∧ ∀ process, (mutated process).1 = .ok count)
                ∧ (original = mutated ↔ start ≤ 1)
                ∧ ∀ process, (original process).1 = (mutated process).1 ↔ start ≤ 1 := by
  obtain ⟨effects, answer⟩ : ∃ effects, hooks.Answer effects := by
    rcases known with rfl | rfl
    · exact ⟨_, Hooks.silent_answer⟩
    · exact ⟨_, Hooks.recording_answer⟩
  obtain ⟨program, loaded⟩ := (source_complete hooks).loads
  obtain ⟨slot, address, found, lies⟩ := exists_decrementMutant loaded
  refine ⟨program, decrementPoint, slot, address, loaded, ProgramSource.load_ready loaded,
    by decide, found, lies, ?_⟩
  intro target calls start original mutated
  have one (process : ProcessState) : original process = _ :=
    (decrements_of_load loaded).call_countDown answer (by decide) (callee_countDown loaded calls)
      start process
  have two (process : ProcessState) : mutated process = _ :=
    (decrements_withMutant loaded found lies).call_countDown answer (by decide)
      (callee_countDown_withMutant loaded found calls) start process
  have toldApart (process : ProcessState)
      : (original process).1 = (mutated process).1 ↔ start ≤ 1 := by
    rw [one, two, Except.ok.injEq, Body.ofNat_stepsDown_inj (by decide) (by decide),
      Body.stepsDown_one_eq_two_iff]
  have unnoticed : original = mutated ↔ start ≤ 1 := by
    refine ⟨fun same => (toldApart {}).mp (by rw [same]), fun few => funext fun process => ?_⟩
    rw [one, two, Body.stepsDown_one_eq_two_iff.mpr few]
  exact ⟨⟨_, Body.toInt_stepsDown_one start, fun process => congrArg Prod.fst (one process)⟩,
    ⟨_, Body.toInt_stepsDown_two start, fun process => congrArg Prod.fst (two process)⟩,
    unnoticed, toldApart⟩

/-- From the greatest integer there is, with all calls on record. -/
theorem greatest_countDown_ends
    : let target : CallTarget := .symbol "_count_down_trampoline"
      ∃ program slot address,
        (source .recording).load = .ok program
        ∧ program.trampolines.find decrementPoint.trampoline = .ok slot
        ∧ program.image.address? decrementPoint.mutatedFunctionName = some address
        ∧ CallsCountDown target
        ∧ ∀ process,
            (program.call target [Int64.maxValue] process).1 = .ok Int64.maxValue
            ∧ ((program.withMutant slot address).call target [Int64.maxValue] process).1
              = .ok 4611686018427387904 := by
  intro target
  have calls : CallsCountDown target := .inr rfl
  obtain ⟨program, point, slot, address, loaded, -, only, found, lies, ends⟩ :=
    countDown_ends .recording (.inr rfl)
  obtain rfl : decrementPoint = point := List.head_eq_of_cons_eq only
  obtain ⟨⟨one, oneExact, original⟩, ⟨two, twoExact, mutated⟩, -⟩ :=
    ends target calls Int64.maxValue
  obtain rfl : one = Int64.maxValue := Int64.toInt_inj.mp (oneExact.trans (by decide))
  obtain rfl : two = 4611686018427387904 := by
    rw [← Int64.toInt_inj, twoExact, show (max Int64.maxValue.toInt 0) = 2 ^ 63 - 1 from rfl]
    change _ = (4611686018427387904 : ℤ)
    rw [Int.ceil_eq_iff]
    norm_num
  exact ⟨program, slot, address, loaded, found, lies, calls,
    fun process => ⟨original process, mutated process⟩⟩

end Sample

end MutationTesting
