import Mathlib.Data.List.TakeDrop
import MutationTesting.Proofs.Recording.Callers

/-! Calls of functions that a recorder does not know. Their entry is ignored, but their end is not:
it ends the innermost call that was recorded. An unknown call therefore stays unnoticed, whatever
follows it, only where nothing recorded is running any more or every function has been called from
outside.
-/

namespace MutationTesting

-----------------------------------------------------------------------------------------
-- Nested calls
-----------------------------------------------------------------------------------------

/-- The calls that are open once an event was reported, the innermost one first, where only the
innermost one may end and nothing is reset.
-/
def CallEvent.nest? (running : List Nat) : CallEvent → Option (List Nat)
  | .enter function => some (function :: running)
  | .leave function => if running.head? = some function then some running.tail else none
  | .reset => none

/-- The calls that are open after some events. -/
def openCalls? (running : List Nat) (events : List CallEvent) : Option (List Nat) :=
  events.foldlM CallEvent.nest? running

/-- Events are properly nested: each call that starts ends again, after all that it made. -/
def Nested (events : List CallEvent) : Prop := openCalls? [] events = some []

instance (events : List CallEvent) : Decidable (Nested events) :=
  inferInstanceAs (Decidable (_ = _))

theorem openCalls?_cons (running : List Nat) (event : CallEvent) (rest : List CallEvent)
    : openCalls? running (event :: rest)
      = (event.nest? running).bind fun later => openCalls? later rest :=
  List.foldlM_cons

theorem openCalls?_append (running : List Nat) (front back : List CallEvent)
    : openCalls? running (front ++ back)
      = (openCalls? running front).bind fun later => openCalls? later back :=
  List.foldlM_append

/-- Only the innermost call may end. -/
theorem CallEvent.nest?_leave {running later : List Nat} {function : Nat}
    : CallEvent.nest? running (.leave function) = some later ↔ running = function :: later := by
  cases running with
  | nil => simp [nest?]
  | cons innermost outer => simp [nest?]

/-- What can be reported of some calls can be reported of them inside of further ones. -/
theorem CallEvent.nest?_inside {running later : List Nat} {event : CallEvent}
    (nests : event.nest? running = some later) (outer : List Nat)
    : event.nest? (running ++ outer) = some (later ++ outer) := by
  cases event with
  | enter function =>
      cases nests
      rfl
  | leave function => exact nest?_leave.mpr (congrArg (· ++ outer) (nest?_leave.mp nests))
  | reset => cases nests

theorem openCalls?_inside {running later : List Nat} {events : List CallEvent}
    (nests : openCalls? running events = some later) (outer : List Nat)
    : openCalls? (running ++ outer) events = some (later ++ outer) := by
  induction events generalizing running with
  | nil =>
      cases nests
      rfl
  | cons event rest ih =>
      rw [openCalls?_cons] at nests ⊢
      obtain ⟨next, first, others⟩ := Option.bind_eq_some_iff.mp nests
      rw [CallEvent.nest?_inside first outer]
      exact ih others

/-- Properly nested events leave the calls open that were open before. -/
theorem Nested.openCalls? {events : List CallEvent} (nested : Nested events) (running : List Nat)
    : openCalls? running events = some running :=
  openCalls?_inside nested running

/-- The innermost calls may end one after the other. -/
theorem openCalls?_leave (inner outer : List Nat)
    : openCalls? (inner ++ outer) (inner.map .leave) = some outer := by
  induction inner with
  | nil => rfl
  | cons innermost rest ih =>
      rw [List.map_cons, List.cons_append, openCalls?_cons, CallEvent.nest?_leave.mpr rfl]
      exact ih

-----------------------------------------------------------------------------------------
-- Recorders of nested calls
-----------------------------------------------------------------------------------------

namespace CallRecorder

variable {recorder : CallRecorder}

theorem run_append (recorder : CallRecorder) (front back : List CallEvent)
    : recorder.run (front ++ back) = (recorder.run front).run back :=
  List.foldl_append

/-- A recorder takes no more calls to be running than are open. -/
theorem length_stack_step {running later : List Nat} {event : CallEvent}
    (nests : event.nest? running = some later) (few : recorder.stack.length ≤ running.length)
    : (recorder.step event).stack.length ≤ later.length := by
  cases event with
  | enter function =>
      cases nests
      rcases Nat.lt_or_ge function recorder.mapping.length with known | unknown
      · simp only [step, recorder.enter_known known, List.length_cons]
        omega
      · simp only [step, recorder.enter_unknown unknown, List.length_cons]
        omega
  | leave function =>
      rw [CallEvent.nest?_leave.mp nests, List.length_cons] at few
      simp only [step, leave, List.length_tail]
      omega
  | reset => cases nests

theorem length_stack_run {running later : List Nat} {events : List CallEvent}
    (nests : openCalls? running events = some later)
    (few : recorder.stack.length ≤ running.length)
    : (recorder.run events).stack.length ≤ later.length := by
  induction events generalizing recorder running with
  | nil =>
      cases nests
      exact few
  | cons event rest ih =>
      rw [openCalls?_cons] at nests
      obtain ⟨next, first, others⟩ := Option.bind_eq_some_iff.mp nests
      exact ih others (length_stack_step first few)

/-- Once every open call has ended, nothing is running. -/
theorem stack_run_of_closed {running : List Nat} {events : List CallEvent}
    (closed : openCalls? running events = some [])
    (few : recorder.stack.length ≤ running.length)
    : (recorder.run events).stack = [] := by
  have nothing := length_stack_run closed few
  exact List.eq_nil_of_length_eq_zero (Nat.le_zero.mp nothing)

/-- Every known function has been called from outside. -/
def AllOutside (recorder : CallRecorder) : Prop :=
  ∀ function,
    function ≠ 0 → function < recorder.mapping.length → recorder.caller function = function

/-- A function that was called from outside remains its own caller when it is entered. -/
theorem mapping_enter_of_own {function : Nat} (identified : function ≠ 0)
    (own : function < recorder.mapping.length → recorder.caller function = function)
    : (recorder.enter function).mapping = recorder.mapping := by
  rcases Nat.lt_or_ge function recorder.mapping.length with known | unknown
  · have same : recorder.noted function = recorder.caller function := by
      unfold noted
      cases recorder.stack with
      | nil => exact (own known).symm
      | cons outer rest => exact (if_neg (by rwa [own known])).trans rfl
    rw [recorder.enter_known known, same]
    simp [caller, known]
  · rw [recorder.enter_unknown unknown]

/-- When every function has been called from outside, nested events change no caller. -/
theorem AllOutside.mapping_run (own : recorder.AllOutside) {running later : List Nat}
    {events : List CallEvent} (nests : openCalls? running events = some later)
    (identified : .enter 0 ∉ events)
    : (recorder.run events).mapping = recorder.mapping := by
  induction events generalizing recorder running with
  | nil => rfl
  | cons event rest ih =>
      rw [openCalls?_cons] at nests
      obtain ⟨next, first, others⟩ := Option.bind_eq_some_iff.mp nests
      rw [List.mem_cons, not_or] at identified
      have unchanged : (recorder.step event).mapping = recorder.mapping := by
        cases event with
        | enter function =>
            have known : function ≠ 0 := by
              rintro rfl
              exact identified.1 rfl
            exact mapping_enter_of_own known (own function known)
        | leave function => rfl
        | reset => cases first
      have still : (recorder.step event).AllOutside := by
        unfold AllOutside caller
        rw [unchanged]
        exact own
      exact (ih still others identified.2).trans unchanged

/-- When every function has been called from outside, nothing but the callers is left after nested
events, and these have not changed.
-/
theorem AllOutside.run_closed (own : recorder.AllOutside) {running : List Nat}
    {events : List CallEvent} (closed : openCalls? running events = some [])
    (few : recorder.stack.length ≤ running.length) (identified : .enter 0 ∉ events)
    : recorder.run events = { mapping := recorder.mapping, stack := [] } :=
  congrArg₂ mk (own.mapping_run closed identified) (stack_run_of_closed closed few)

/-- Ends of calls only shorten the stack. -/
theorem run_leave (recorder : CallRecorder) (calls : List Nat)
    : recorder.run (calls.map .leave)
      = { recorder with stack := recorder.stack.drop calls.length } := by
  induction calls generalizing recorder with
  | nil => rfl
  | cons call rest ih =>
      change (recorder.leave call).run (rest.map .leave) = _
      rw [ih, List.length_cons, ← List.drop_tail]
      rfl

-----------------------------------------------------------------------------------------
-- Unknown calls
-----------------------------------------------------------------------------------------

/-- An unknown call ends the innermost function that is being recorded. -/
theorem run_unknownCall (recorder : CallRecorder) {unknown : Nat}
    (beyond : recorder.mapping.length ≤ unknown) (part : List CallEvent)
    : recorder.run (.enter unknown :: part ++ [.leave unknown])
      = (recorder.run part).leave unknown := by
  rw [run_append]
  change ((recorder.enter unknown).run part).leave unknown = _
  rw [recorder.enter_unknown beyond]

/-- A function that has not been called from outside keeps its caller, or gets one, when it is
entered while a single other function is running.
-/
theorem noted_ne_of_running (recorder : CallRecorder) {outer function : Nat}
    (running : recorder.stack = [outer]) (called : recorder.caller outer ≠ 0)
    (inside : recorder.caller function ≠ function)
    : recorder.noted function ≠ function := by
  unfold noted
  rw [running]
  dsimp only
  by_cases fresh : recorder.caller function = 0
  · rw [if_pos fresh]
    rintro rfl
    exact called fresh
  · rw [if_neg fresh]
    exact inside

/-- What is noted for a function that is called between the ends of other calls. -/
theorem caller_run_between (recorder : CallRecorder) {function : Nat}
    (known : function < recorder.mapping.length) (inner outer : List Nat)
    : (recorder.run
          (inner.map .leave ++ [.enter function, .leave function] ++ outer.map .leave)).caller
        function
      = noted { recorder with stack := recorder.stack.drop inner.length } function := by
  let ended : CallRecorder := { recorder with stack := recorder.stack.drop inner.length }
  have last
      : recorder.run (inner.map .leave ++ [.enter function, .leave function] ++ outer.map .leave)
        = {
            mapping := (ended.enter function).mapping
            stack := (ended.enter function).stack.tail.drop outer.length
          } := by
    rw [run_append, run_append, run_leave, run_leave]
    rfl
  rw [last, ended.enter_known known, caller_set _ _ known, Function.update_self]

/-- If a function is running and another one has not been called from outside, nested events may
follow that tell whether an unknown call has ended the innermost function.
-/
theorem exists_telling {rank : Nat → Nat} (orderly : recorder.Orderly rank) {running : List Nat}
    (few : recorder.stack.length ≤ running.length) (busy : recorder.stack ≠ []) {function : Nat}
    (identified : function ≠ 0) (known : function < recorder.mapping.length)
    (inside : recorder.caller function ≠ function) (unknown : Nat)
    : ∃ after,
        openCalls? running after = some []
        ∧ .enter 0 ∉ after
        ∧ (recorder.leave unknown).run after ≠ recorder.run after := by
  -- All calls end until a single function is taken to be running, and then the function is called.
  let inner := running.take (recorder.stack.length - 1)
  let outer := running.drop (recorder.stack.length - 1)
  have size : inner.length = recorder.stack.length - 1 := by
    rw [List.length_take]
    omega
  refine ⟨inner.map .leave ++ [.enter function, .leave function] ++ outer.map .leave, ?_, ?_,
    ?_⟩
  · have pair : Nested [.enter function, .leave function] := by
      simp [Nested, openCalls?, CallEvent.nest?]
    have whole : running = inner ++ outer := (List.take_append_drop _ running).symm
    rw [openCalls?_append, openCalls?_append, whole, openCalls?_leave, Option.bind_some,
      pair.openCalls?, Option.bind_some]
    simpa using openCalls?_leave outer []
  · simpa using Ne.symm identified
  · intro same
    have callers := congrArg (fun recorder => caller recorder function) same
    rw [caller_run_between recorder known, caller_run_between (recorder.leave unknown) known,
      size] at callers
    have single
        : recorder.stack.drop (recorder.stack.length - 1) = [recorder.stack.getLast busy] :=
      List.drop_length_sub_one busy
    have idle : (recorder.leave unknown).stack.drop (recorder.stack.length - 1) = [] := by
      rw [List.drop_eq_nil_iff]
      exact Nat.le_of_eq List.length_tail
    rw [idle, single] at callers
    have called : recorder.caller (recorder.stack.getLast busy) ≠ 0 :=
      orderly.running _ (List.getLast_mem busy)
    exact noted_ne_of_running { recorder with stack := [_] } rfl called inside callers.symm

/-- The end of an unknown call ends the innermost function that is taken to be running, so that
unknown calls are not ignored: what follows is recorded as if this function had been left. After
some events an unknown call around a nested part goes unnoticed whatever nested events follow, if
and only if no function is taken to be running at its end or every function has been called from
outside by then.
-/
theorem run_unknownCall_iff (functions : Nat) (before part : List CallEvent) (unknown : Nat)
    (beyond : functions < unknown) (nested : Nested part)
    (started : (openCalls? [] before).isSome) (identified : .enter 0 ∉ before ++ part)
    : let recorder := (new functions).run (before ++ part)
      let whole := .enter unknown :: part ++ [.leave unknown]
      (∀ after,
          (new functions).run (before ++ whole ++ after)
            = (recorder.leave unknown).run after)
      ∧ ((∀ after,
            Nested (before ++ part ++ after)
            → .enter 0 ∉ after
            → (new functions).run (before ++ whole ++ after)
              = (new functions).run (before ++ part ++ after))
        ↔ recorder.stack = []
          ∨ ∀ function,
              0 < function → function ≤ functions → recorder.caller function = function) := by
  intro recorder whole
  obtain ⟨running, opened⟩ := Option.isSome_iff_exists.mp started
  have fresh : (new functions).Orderly fun _ => 0 := .of_empty (caller_new _) rfl
  have wrapped (after : List CallEvent)
      : (new functions).run (before ++ whole ++ after) = (recorder.leave unknown).run after := by
    have size : ((new functions).run before).mapping.length = functions + 1 := by
      rw [(fresh.run fun member => identified (List.mem_append_left _ member)).2, new,
        List.length_replicate]
    rw [run_append, run_append, run_unknownCall _ (by omega), ← run_append]
  have unwrapped (after : List CallEvent)
      : (new functions).run (before ++ part ++ after) = recorder.run after :=
    run_append ..
  obtain ⟨⟨rank, orderly⟩, same⟩ := fresh.run identified
  have size : recorder.mapping.length = functions + 1 := by
    rw [same, new, List.length_replicate]
  have here : openCalls? [] (before ++ part) = some running := by
    rw [openCalls?_append, opened]
    exact nested.openCalls? running
  have few : recorder.stack.length ≤ running.length := length_stack_run here (Nat.le_refl _)
  have nests (after : List CallEvent)
      : Nested (before ++ part ++ after) ↔ openCalls? running after = some [] := by
    rw [Nested, openCalls?_append, here, Option.bind_some]
  refine ⟨wrapped, ?_⟩
  simp only [wrapped, unwrapped, nests]
  constructor
  · intro unnoticed
    by_contra! other
    obtain ⟨busy, function, identified, known, inside⟩ := other
    obtain ⟨after, closed, starts, tells⟩ :=
      exists_telling orderly few busy (Nat.ne_of_gt identified)
        (size ▸ Nat.lt_succ_of_le known) inside unknown
    exact tells (unnoticed after closed starts)
  · rintro (idle | outside) after closed starts
    · have unchanged : recorder.leave unknown = recorder := by
        unfold leave
        rw [idle]
        exact congrArg (mk recorder.mapping) idle.symm
      rw [unchanged]
    · have own : recorder.AllOutside := fun function identified known =>
        outside function (Nat.pos_of_ne_zero identified) (by omega)
      have left : (recorder.leave unknown).AllOutside := own
      have fewer : (recorder.leave unknown).stack.length ≤ running.length :=
        Nat.le_trans recorder.stack.tail_sublist.length_le few
      exact (left.run_closed closed fewer starts).trans (own.run_closed closed few starts).symm

/-- A call of the unknown third of two functions goes unnoticed once both have been called from
outside, even while the second one is running, but not while the first one is running and the second
one has not been called yet.
-/
theorem sample_run_unknownCall_iff
    : let called : List CallEvent := [.enter 1, .leave 1, .enter 2]
      let wrapper : List CallEvent := [.enter 3, .leave 3]
      (2 < 3 ∧ Nested [] ∧ (openCalls? [] called).isSome ∧ (openCalls? [] [.enter 1]).isSome)
      ∧ (∀ after,
          Nested (called ++ [] ++ after)
          → .enter 0 ∉ after
          → (new 2).run (called ++ wrapper ++ after) = (new 2).run (called ++ [] ++ after))
      ∧ ¬ ∀ after,
          Nested ([.enter 1] ++ [] ++ after)
          → .enter 0 ∉ after
          → (new 2).run ([.enter 1] ++ wrapper ++ after) = (new 2).run ([.enter 1] ++ [] ++ after)
    := by
  refine ⟨by decide, ?_, ?_⟩
  · apply (run_unknownCall_iff 2 [.enter 1, .leave 1, .enter 2] [] 3 (by decide) (by decide)
      (by decide) (by decide)).2.mpr
    refine .inr fun function identified known => ?_
    have either : function = 1 ∨ function = 2 := by omega
    rcases either with rfl | rfl <;> decide
  · intro unnoticed
    have outside := (run_unknownCall_iff 2 [.enter 1] [] 3 (by decide) (by decide) (by decide)
      (by decide)).2.mp unnoticed
    rcases outside with idle | own
    · exact absurd idle (by decide)
    · exact absurd (own 2 (by decide) (by decide)) (by decide)

/-- Unknown calls are not ignored: after one, the second function is taken to be called from outside
although the first one called it.
-/
theorem not_unknownCalls_ignored
    : ¬ ∀ (functions unknown : Nat) (before part after : List CallEvent),
        functions < unknown
        → Nested (before ++ part ++ after)
        → Nested part
        → .enter 0 ∉ before ++ part ++ after
        → (new functions).run (before ++ (.enter unknown :: part ++ [.leave unknown]) ++ after)
          = (new functions).run (before ++ part ++ after) := by
  intro ignored
  have same := ignored 2 3 [.enter 1] [] [.enter 2, .leave 2, .leave 1] (by decide) (by decide)
    (by decide) (by decide)
  exact absurd same (by decide)

end CallRecorder

end MutationTesting
