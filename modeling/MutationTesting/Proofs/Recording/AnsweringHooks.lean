import MutationTesting.Proofs.Recording.BalancedCalls

/-! Hooks that always answer. Instrumented code comes back with the value of its body then, and what
it leaves behind is what the hooks make of what the body leaves behind.
-/

namespace MutationTesting

/-- What calls of hooks make of the process. -/
structure HookEffects where
  entered : Nat → ProcessState → ProcessState
  left : Nat → ProcessState → ProcessState

/-- The process after a call of a function whose code leaves it alone. -/
def HookEffects.around (effects : HookEffects) (number : Nat) (process : ProcessState)
    : ProcessState :=
  effects.left number (effects.entered number process)

/-- Hooks answer whenever they are called with the number of a function. -/
structure Hooks.Answer (hooks : Hooks) (effects : HookEffects) : Prop where
  enter
    : ∀ call process number,
        number < UInt32.size
        → hooks.enter.eval call [.ofNat number] process = (.ok 0, effects.entered number process)
  leave
    : ∀ call process number,
        number < UInt32.size
        → hooks.leave.eval call [.ofNat number] process = (.ok 0, effects.left number process)

theorem Hooks.silent_answer : silent.Answer { entered _ := id, left _ := id } where
  enter _ _ _ _ := rfl
  leave _ _ _ _ := rfl

theorem Hooks.recording_answer
    : recording.Answer { entered number := (·.entered number), left number := (·.left number) }
    where
  enter _ process _ small :=
    congrArg (fun reported => (Except.ok 0, process.entered reported))
      (Body.functionNumber_ofNat small)
  leave _ process _ small :=
    congrArg (fun reported => (Except.ok 0, process.left reported))
      (Body.functionNumber_ofNat small)

/-- Calls of both hooks with the number of a function answer. -/
structure CallHandler.Hooked (call : CallHandler) (effects : HookEffects) (number : Nat)
    : Prop where
  enters
    : ∀ process,
        call (.symbol Hooks.enterSymbol) [.ofNat number] process
        = (.ok 0, effects.entered number process)
  leaves
    : ∀ process,
        call (.symbol Hooks.leaveSymbol) [.ofNat number] process
        = (.ok 0, effects.left number process)

namespace Body

variable {call : CallHandler} {effects : HookEffects} {number : Nat}

theorem eval_call_const (call : CallHandler) (args : List Int64) (symbol : String) (value : Int64)
    : (Body.call symbol [.const value]).eval call args = call (.symbol symbol) [value] := by
  simp [eval, evalAll]

theorem eval_pair (call : CallHandler) (args : List Int64) (first second : Body)
    : (Body.sequence [first, second]).eval call args
      = first.eval call args >>= fun _ => second.eval call args := by
  simp [eval, evalAll]

/-- Instrumented code comes back with the value of its body, between the answers of both hooks. -/
theorem eval_instrumented (hooked : call.Hooked effects number) {args : List Int64} {body : Body}
    {process after : ProcessState} {value : Int64}
    (ran : body.eval call args (effects.entered number process) = (.ok value, after))
    : (Body.instrumented number body).eval call args process
      = (.ok value, effects.left number after) := by
  have entry
      : (Body.call Hooks.enterSymbol [.const (.ofNat number)]).eval call args process
        = (.ok 0, effects.entered number process) := by
    rw [eval_call_const]
    exact hooked.enters process
  have ending
      : (Body.call Hooks.leaveSymbol [.const (.ofNat number)]).eval call args after
        = (.ok 0, effects.left number after) := by
    rw [eval_call_const]
    exact hooked.leaves after
  have caught
      : Exec.catchFault (body.eval call args) (effects.entered number process)
        = (.ok (.ok value), after) := by
    rw [Exec.catchFault_apply, ran]
    rfl
  rw [instrumented, eval_pair, Exec.bind_ok entry, eval, Exec.bind_ok caught, Exec.bind_ok ending]
  rfl

end Body

end MutationTesting
