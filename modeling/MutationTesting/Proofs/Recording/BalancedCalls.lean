import MutationTesting.Proofs.Program.EventLogs
import MutationTesting.Proofs.Recording.FirstCallers
import MutationTesting.Run.Discovery

/-! Calls of instrumented functions leave a recorder in balance. An instrumented function reports
that it is left whether its code ends in a value or in a fault, so that what it reports is properly
nested whatever it calls, and nothing that it called is taken to be running afterwards.
-/

namespace MutationTesting

-----------------------------------------------------------------------------------------
-- Nested reports
-----------------------------------------------------------------------------------------

theorem Nested.append {front back : List CallEvent} (first : Nested front) (rest : Nested back)
    : Nested (front ++ back) := by
  unfold Nested
  rw [openCalls?_append, first, Option.bind_some]
  exact rest

/-- A call around properly nested events is itself properly nested. -/
theorem Nested.around {events : List CallEvent} (nested : Nested events) (function : Nat)
    : Nested (.enter function :: events ++ [.leave function]) := by
  unfold Nested
  rw [List.cons_append, openCalls?_cons, CallEvent.nest?, Option.bind_some, openCalls?_append,
    nested.openCalls?, Option.bind_some, openCalls?_cons, CallEvent.nest?_leave.mpr rfl]
  rfl

/-- All functions that are entered are among the given number of functions, or not identified. -/
def CallEvent.Among (functions : Nat) (events : List CallEvent) : Prop :=
  ∀ function, .enter function ∈ events → function ≤ functions

theorem CallEvent.Among.append {functions : Nat} {front back : List CallEvent}
    (first : Among functions front) (rest : Among functions back)
    : Among functions (front ++ back) := by
  intro function entered
  rcases List.mem_append.mp entered with earlier | later
  · exact first function earlier
  · exact rest function later

theorem CallEvent.Among.around {functions function : Nat} {events : List CallEvent}
    (among : Among functions events) (known : function ≤ functions)
    : Among functions (.enter function :: events ++ [.leave function]) := by
  intro other entered
  simp only [List.mem_append, List.mem_cons, List.not_mem_nil, or_false, reduceCtorEq] at entered
  rcases entered with same | inside
  · cases same
    exact known
  · exact among other inside

namespace CallRecorder

variable {recorder : CallRecorder} {functions : Nat}

/-- While known functions are entered, the open calls are those that are taken to be running. -/
theorem stack_step_of_among {running later outer : List Nat} {event : CallEvent}
    (size : recorder.mapping.length = functions + 1) (among : CallEvent.Among functions [event])
    (nests : event.nest? running = some later) (stack : recorder.stack = running ++ outer)
    : (recorder.step event).stack = later ++ outer := by
  cases event with
  | enter function =>
      have known : function < recorder.mapping.length := by
        rw [size]
        exact Nat.lt_succ_of_le (among function (List.mem_singleton.mpr rfl))
      cases nests
      change (recorder.enter function).stack = _
      rw [recorder.enter_known known, stack]
      rfl
  | leave function =>
      change recorder.stack.tail = _
      rw [stack, CallEvent.nest?_leave.mp nests]
      rfl
  | reset => cases nests

theorem stack_run_of_among {running later outer : List Nat} {events : List CallEvent}
    (size : recorder.mapping.length = functions + 1) (among : CallEvent.Among functions events)
    (nests : openCalls? running events = some later) (stack : recorder.stack = running ++ outer)
    : (recorder.run events).stack = later ++ outer := by
  induction events generalizing recorder running with
  | nil =>
      cases nests
      exact stack
  | cons event rest ih =>
      rw [openCalls?_cons] at nests
      obtain ⟨next, first, others⟩ := Option.bind_eq_some_iff.mp nests
      have own : CallEvent.Among functions [event] := fun function entered =>
        among function (List.mem_cons.mpr (.inl (List.mem_singleton.mp entered)))
      have behind : CallEvent.Among functions rest := fun function entered =>
        among function (List.mem_cons_of_mem event entered)
      exact ih ((length_mapping_step recorder event).trans size) behind others
        (stack_step_of_among size own first stack)

/-- Properly nested events of known functions leave the same functions running. -/
theorem stack_run_of_nested {events : List CallEvent}
    (size : recorder.mapping.length = functions + 1) (among : CallEvent.Among functions events)
    (nested : Nested events)
    : (recorder.run events).stack = recorder.stack :=
  stack_run_of_among size among nested rfl

end CallRecorder

-----------------------------------------------------------------------------------------
-- Balanced computations
-----------------------------------------------------------------------------------------

/-- A computation has come back to its caller, with an answer or with a fault. -/
def Exec.Returned : Except Stop α → Prop
  | .ok _ => True
  | .error reason => ∃ fault, reason = .fault fault

theorem Exec.returned_caught (outcome : Except Stop α)
    : Returned (caught outcome) ↔ Returned outcome := by
  rcases outcome with reason | answer
  · cases reason <;> simp [caught, Returned]
  · rfl

namespace Logged

/-- Whenever a computation comes back, what it reported is properly nested. -/
def Balanced (functions : Nat) (computation : Logged α) : Prop :=
  ∀ process,
    Exec.Returned (computation process).1.1
    → Nested (computation process).2 ∧ CallEvent.Among functions (computation process).2

theorem balanced_silent (functions : Nat) (computation : Exec α)
    : Balanced functions (silent computation) :=
  fun _ _ => ⟨rfl, fun _ entered => absurd entered List.not_mem_nil⟩

theorem Balanced.bind {functions : Nat} {first : Logged α} {next : α → Logged β}
    (balanced : Balanced functions first) (others : ∀ answer, Balanced functions (next answer))
    : Balanced functions (first >>= next) := by
  intro process
  have own := balanced process
  rcases ran : first process with ⟨⟨outcome, after⟩, events⟩
  rw [ran] at own
  cases outcome with
  | error reason =>
      rw [bind_error ran]
      exact own
  | ok answer =>
      rw [bind_ok ran]
      intro returned
      obtain ⟨nested, among⟩ := own trivial
      obtain ⟨nestedToo, amongToo⟩ := others answer after returned
      exact ⟨nested.append nestedToo, among.append amongToo⟩

/-- Being balanced is required alike of computations and their parts. Single reports are not
balanced.
-/
theorem balanced_congruence (functions : Nat)
    : Congruence fun _ logged _ => Balanced functions logged where
  silent _ := balanced_silent functions _
  bind := .bind
  catchFault parts process returned := parts process ((Exec.returned_caught _).mp returned)

end Logged

-----------------------------------------------------------------------------------------
-- Instrumented code
-----------------------------------------------------------------------------------------

/-- The number of an identified function is reported as it is. -/
theorem Body.functionNumber_ofNat {number : Nat} (small : number < UInt32.size)
    : functionNumber (.ofNat number) = number := by
  have exact : (Int64.ofNat number).toInt = number :=
    Int64.toInt_ofNat_of_lt (Nat.lt_trans small (by decide))
  unfold functionNumber
  rw [exact, if_pos (by omega), Int.toNat_natCast]

/-- The process once a function has been entered. -/
def ProcessState.entered (process : ProcessState) (number : Nat) : ProcessState :=
  { process with recorder := process.recorder.enter number }

/-- The process once a function has been left. -/
def ProcessState.left (process : ProcessState) (number : Nat) : ProcessState :=
  { process with recorder := process.recorder.leave number }

/-- Calls of both hooks with the number of a function report what they are for. -/
structure LoggedHandler.Hooked (call : LoggedHandler) (number : Nat) : Prop where
  enters
    : ∀ process,
        call (.symbol Hooks.enterSymbol) [.ofNat number] process
        = ((.ok 0, process.entered number), [.enter number])
  leaves
    : ∀ process,
        call (.symbol Hooks.leaveSymbol) [.ofNat number] process
        = ((.ok 0, process.left number), [.leave number])

namespace Body

variable {call : LoggedHandler} {number : Nat}

/-- A call whose only argument is a constant is the call itself. -/
theorem evalLogged_call_const (call : LoggedHandler) (args : List Int64) (symbol : String)
    (value : Int64)
    : (Body.call symbol [.const value]).evalLogged call args = call (.symbol symbol) [value] := by
  funext process
  have operands : evalAllLogged call args [.const value] process = ((.ok [value], process), []) :=
    rfl
  rw [evalLogged, Logged.bind_ok operands]
  rfl

/-- Two bodies in sequence run one after the other, and the second one gives the value. -/
theorem evalLogged_pair (call : LoggedHandler) (args : List Int64) (first second : Body)
    : (Body.sequence [first, second]).evalLogged call args
      = first.evalLogged call args >>= fun _ => second.evalLogged call args := by
  simp [evalLogged, evalAllLogged]

/-- Where a body comes back, the end of its function is reported after it. -/
theorem evalLogged_cleanup_of_returned (hooked : call.Hooked number) (args : List Int64)
    (body : Body) {process after : ProcessState} {outcome : Except Stop Int64}
    {events : List CallEvent}
    (ran : body.evalLogged call args process = ((outcome, after), events))
    (returned : Exec.Returned outcome)
    : (Body.cleanup body (.call Hooks.leaveSymbol [.const (.ofNat number)])).evalLogged call args
        process
      = ((outcome, after.left number), events ++ [.leave number]) := by
  have caught
      : (body.evalLogged call args).catchFault process
        = ((Exec.caught outcome, after), events) := by
    rw [Logged.catchFault, ran]
  have ending
      : (Body.call Hooks.leaveSymbol [.const (.ofNat number)]).evalLogged call args after
        = ((.ok 0, after.left number), [.leave number]) := by
    rw [evalLogged_call_const]
    exact hooked.leaves after
  rw [evalLogged]
  rcases outcome with reason | value
  · obtain ⟨fault, rfl⟩ := returned
    rw [Logged.bind_ok caught, Logged.bind_ok ending]
    rfl
  · rw [Logged.bind_ok caught, Logged.bind_ok ending]
    rfl

theorem evalLogged_cleanup_of_stopped (args : List Int64) (body last : Body)
    {process after : ProcessState} {outcome : Except Stop Int64} {events : List CallEvent}
    (ran : body.evalLogged call args process = ((outcome, after), events))
    (stopped : ¬ Exec.Returned outcome)
    : (Body.cleanup body last).evalLogged call args process = ((outcome, after), events) := by
  rcases outcome with reason | value
  · have caught
        : (body.evalLogged call args).catchFault process = ((.error reason, after), events) := by
      rw [Logged.catchFault, ran]
      cases reason with
      | fault fault => exact absurd ⟨fault, rfl⟩ stopped
      | _ => rfl
    rw [evalLogged, Logged.bind_error caught]
  · exact absurd trivial stopped

/-- Instrumented code reports its entry, and goes on with its body and the report of its end. -/
theorem evalLogged_instrumented (hooked : call.Hooked number) (args : List Int64) (body : Body)
    {process after : ProcessState} {outcome : Except Stop Int64} {events : List CallEvent}
    (ran
      : (Body.cleanup body (.call Hooks.leaveSymbol [.const (.ofNat number)])).evalLogged call args
          (process.entered number)
        = ((outcome, after), events))
    : (Body.instrumented number body).evalLogged call args process
      = ((outcome, after), .enter number :: events) := by
  have entry
      : (Body.call Hooks.enterSymbol [.const (.ofNat number)]).evalLogged call args process
        = ((.ok 0, process.entered number), [.enter number]) := by
    rw [evalLogged_call_const]
    exact hooked.enters process
  rw [instrumented, evalLogged_pair, Logged.bind_ok entry, ran]
  rfl

/-- Instrumented code ends as its body does where that comes back, and reports its own end. -/
theorem evalLogged_instrumented_of_returned (hooked : call.Hooked number) (args : List Int64)
    (body : Body) {process after : ProcessState} {outcome : Except Stop Int64}
    {events : List CallEvent}
    (ran : body.evalLogged call args (process.entered number) = ((outcome, after), events))
    (returned : Exec.Returned outcome)
    : (Body.instrumented number body).evalLogged call args process
      = ((outcome, after.left number), .enter number :: (events ++ [.leave number])) :=
  evalLogged_instrumented hooked args body
    (evalLogged_cleanup_of_returned hooked args body ran returned)

/-- Where the body does not come back, only the entry is reported. -/
theorem evalLogged_instrumented_of_stopped (hooked : call.Hooked number) (args : List Int64)
    (body : Body) {process after : ProcessState} {outcome : Except Stop Int64}
    {events : List CallEvent}
    (ran : body.evalLogged call args (process.entered number) = ((outcome, after), events))
    (stopped : ¬ Exec.Returned outcome)
    : (Body.instrumented number body).evalLogged call args process
      = ((outcome, after), .enter number :: events) :=
  evalLogged_instrumented hooked args body (evalLogged_cleanup_of_stopped args body _ ran stopped)

/-- Instrumented code is balanced when its body is. -/
theorem instrumented_balanced {functions : Nat} (hooked : call.Hooked number)
    (known : number ≤ functions) {args : List Int64} {body : Body}
    (balanced : Logged.Balanced functions (body.evalLogged call args))
    : Logged.Balanced functions ((Body.instrumented number body).evalLogged call args) := by
  intro process
  have own := balanced (process.entered number)
  rcases ran : body.evalLogged call args (process.entered number) with ⟨⟨outcome, after⟩, events⟩
  rw [ran] at own
  by_cases returned : Exec.Returned outcome
  · rw [evalLogged_instrumented_of_returned hooked args body ran returned]
    obtain ⟨nested, among⟩ := own returned
    exact fun _ => ⟨nested.around number, among.around known⟩
  · rw [evalLogged_instrumented_of_stopped hooked args body ran returned]
    exact fun came => absurd came returned

/-- Code is balanced that reports nothing itself and whose calls are balanced. -/
theorem evalLogged_balanced {functions : Nat} {allowed : CallTarget → Prop}
    (calls : ∀ target values, allowed target → Logged.Balanced functions (call target values))
    (args : List Int64) {body : Body} (only : body.CallsOnly allowed)
    (reportless : body.Reportless)
    : Logged.Balanced functions (body.evalLogged call args) :=
  @evalLogged_alike _ allowed call (fun _ _ => Exec.stop .unfinished)
    (Logged.balanced_congruence functions) calls args body only (.inr reportless)

theorem reportless_instrumented {body : Body} (reportless : body.Reportless)
    : (Body.instrumented number body).Reportless := by
  simp [instrumented, Reportless, AllReportless, reportless]

end Body

-----------------------------------------------------------------------------------------
-- Instrumented programs
-----------------------------------------------------------------------------------------

namespace LoadedProgram

/-- Both hooks report to the recorder, and the code behind the allowed targets is instrumented with
the number of a known function. What it instruments calls allowed targets only, directly or through
trampolines, and makes no reports of its own.
-/
structure Instruments (program : LoadedProgram) (functions : Nat)
    (allowed : CallTarget → Prop)
    : Prop where
  enters : program.callee (.symbol Hooks.enterSymbol) = .ok .recordEnter
  leaves : program.callee (.symbol Hooks.leaveSymbol) = .ok .recordLeave
  instrumented
    : ∀ target code,
        allowed target
        → program.callee target = .ok code
        → ∃ number body,
            number ≤ functions
            ∧ code = .instrumented number body
            ∧ body.CallsOnly allowed
            ∧ body.Reportless

variable {program : LoadedProgram} {functions : Nat} {allowed : CallTarget → Prop}

/-- Calls of the hooks report, as long as they may nest at all. -/
theorem Instruments.hooked (instruments : program.Instruments functions allowed) {number : Nat}
    (small : number < UInt32.size) (depth : Nat)
    : LoggedHandler.Hooked (program.callLoggedWithin (depth + 1)) number := by
  have same := Body.functionNumber_ofNat small
  constructor <;> intro process
  · rw [callLoggedWithin, instruments.enters]
    change ((Except.ok 0, process.entered (Body.functionNumber (.ofNat number))),
      [CallEvent.enter (Body.functionNumber (.ofNat number))]) = _
    rw [same]
  · rw [callLoggedWithin, instruments.leaves]
    change ((Except.ok 0, process.left (Body.functionNumber (.ofNat number))),
      [CallEvent.leave (Body.functionNumber (.ofNat number))]) = _
    rw [same]

/-- Calls of allowed targets are balanced.
Witness: induction on the depth to which calls may nest. At the last level nothing is reported, as
the hooks are not reached.
-/
theorem Instruments.callLoggedWithin_balanced (instruments : program.Instruments functions allowed)
    (fit : functions < UInt32.size) (depth : Nat) (target : CallTarget) (args : List Int64)
    (member : allowed target)
    : Logged.Balanced functions (program.callLoggedWithin depth target args) := by
  induction depth generalizing target args with
  | zero => exact Logged.balanced_silent functions _
  | succ depth ih =>
      unfold callLoggedWithin
      cases reached : program.callee target with
      | error fault => exact Logged.balanced_silent functions _
      | ok code =>
          obtain ⟨number, body, known, rfl, only, reportless⟩ :=
            instruments.instrumented target code member reached
          cases depth with
          | zero =>
              refine Body.evalLogged_balanced (fun _ _ _ => ?_) args (Body.callsOnly_true _)
                (Body.reportless_instrumented reportless)
              exact Logged.balanced_silent functions _
          | succ depth =>
              have small : number < UInt32.size := Nat.lt_of_le_of_lt known fit
              have inner := Body.evalLogged_balanced ih args only reportless
              exact Body.instrumented_balanced (instruments.hooked small depth) known inner

/-- Instrumentation is balanced. Whatever an instrumented body calls, directly or through
trampolines and to whatever depth, its wrapped call ends as the body does. If that is a value or a
fault, then what the call reported is properly nested, from its entry to its end, and the recorder
takes the same functions to be running as before.
-/
theorem eval_instrumented_balanced (instruments : program.Instruments functions allowed)
    (fit : functions < UInt32.size) {number : Nat} (known : number ≤ functions) {body : Body}
    (only : body.CallsOnly allowed) (reportless : body.Reportless) (depth : Nat)
    (args : List Int64) (process : ProcessState)
    (size : process.recorder.mapping.length = functions + 1)
    : let own :=
        body.evalLogged (program.callLoggedWithin (depth + 1)) args (process.entered number)
      let ran :=
        (Body.instrumented number body).evalLogged (program.callLoggedWithin (depth + 1)) args
          process
      own.1 = body.eval (program.callWithin (depth + 1)) args (process.entered number)
      ∧ ran.1
        = (Body.instrumented number body).eval (program.callWithin (depth + 1)) args process
      ∧ ran.1.2.recorder = process.recorder.run ran.2
      ∧ ran.1.1 = own.1.1
      ∧ (Exec.Returned own.1.1
        → ran.2 = .enter number :: own.2 ++ [.leave number]
          ∧ Nested own.2
          ∧ Nested ran.2
          ∧ ran.1.2.recorder.stack = process.recorder.stack) := by
  intro own ran
  have small : number < UInt32.size := Nat.lt_of_le_of_lt known fit
  have hooked := instruments.hooked small depth
  have logs := Body.evalLogged_logs (program.callLoggedWithin_logs (depth + 1)) args
  have told : ran.1.2.recorder = process.recorder.run ran.2 :=
    (logs (.instrumented number body)).faithful process
  have inner := Body.evalLogged_balanced (instruments.callLoggedWithin_balanced fit (depth + 1))
    args only reportless
  have outer := Body.instrumented_balanced hooked known inner
  refine ⟨congrFun (logs body).forgets _, congrFun (logs _).forgets process, told, ?_⟩
  rcases ended : own with ⟨⟨outcome, after⟩, events⟩
  by_cases returned : Exec.Returned outcome
  · have whole
        : ran = ((outcome, after.left number), .enter number :: (events ++ [.leave number])) :=
      Body.evalLogged_instrumented_of_returned hooked args body ended returned
    -- The stack is read off what was reported, which is nested from the entry to the end.
    have nested := inner (process.entered number)
    have all := outer process
    change Exec.Returned own.1.1 → Nested own.2 ∧ _ at nested
    change Exec.Returned ran.1.1 → Nested ran.2 ∧ CallEvent.Among functions ran.2 at all
    rw [ended] at nested
    rw [told]
    rw [whole] at all ⊢
    obtain ⟨allNested, among⟩ := all returned
    refine ⟨rfl, fun _ => ⟨rfl, (nested returned).1, allNested, ?_⟩⟩
    exact CallRecorder.stack_run_of_nested size among allNested
  · have whole : ran = ((outcome, after), .enter number :: events) :=
      Body.evalLogged_instrumented_of_stopped hooked args body ended returned
    exact ⟨congrArg (·.1.1) whole, fun came => absurd came returned⟩

/-- A function that always aborts, with number 2, is called through a trampoline by another one,
with number 1. That one goes on after the fault and calls it again, this time directly.
-/
theorem sample_eval_instrumented_balanced
    : let failing : Body := .instrumented 2 (.abort "no")
      let program : LoadedProgram :=
        {
          image :=
            {
              functions := [.recordEnter, .recordLeave, failing]
              symbols :=
                [
                  (Hooks.enterSymbol, .function (.ofIndex 0)),
                  (Hooks.leaveSymbol, .function (.ofIndex 1)),
                  ("failing", .function (.ofIndex 2)),
                  ("_failing_trampoline", .slot (.own "_failing_trampoline"))
                ]
            }
          trampolines :=
            {
              slots :=
                [
                  {
                    name := "_failing_trampoline"
                    function := "failing"
                    target := some (.ofIndex 2)
                  }
                ]
            }
        }
      let allowed (target : CallTarget) : Prop :=
        target = .symbol "failing" ∨ target = .symbol "_failing_trampoline"
      let body : Body :=
        .sequence [.recover (.call "_failing_trampoline" []) (.const 0), .call "failing" []]
      let process : ProcessState := { recorder := .new 2 }
      let ran :=
        (Body.instrumented 1 body).evalLogged (program.callLoggedWithin 9) [] process
      program.Instruments 2 allowed
      ∧ body.CallsOnly allowed
      ∧ body.Reportless
      ∧ ran.1.1 = .error (.fault (.abort "no"))
      ∧ ran.2 = [.enter 1, .enter 2, .leave 2, .enter 2, .leave 2, .leave 1]
      ∧ Nested ran.2
      ∧ ran.1.2.recorder.stack = process.recorder.stack := by
  intro failing program allowed body process ran
  have instruments : program.Instruments 2 allowed := by
    refine ⟨rfl, rfl, ?_⟩
    rintro target code (rfl | rfl) reached
    · cases reached
      exact ⟨2, .abort "no", Nat.le_refl 2, rfl, trivial, trivial⟩
    · cases reached
      exact ⟨2, .abort "no", Nat.le_refl 2, rfl, trivial, trivial⟩
  have only : body.CallsOnly allowed :=
    ⟨⟨⟨.inr rfl, trivial⟩, trivial⟩, ⟨.inl rfl, trivial⟩, trivial⟩
  have reportless : body.Reportless := ⟨⟨trivial, trivial⟩, trivial, trivial⟩
  obtain ⟨-, -, -, -, balanced⟩ :=
    eval_instrumented_balanced instruments (by decide) (by decide : 1 ≤ 2) only reportless 8 []
      process rfl
  obtain ⟨-, -, nested, stack⟩ := balanced ⟨.abort "no", rfl⟩
  exact ⟨instruments, only, reportless, rfl, rfl, nested, stack⟩

end LoadedProgram

end MutationTesting
