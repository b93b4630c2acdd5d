import Mathlib.Data.List.DropRight
import MutationTesting.Proofs.Recording.UnknownCalls

/-! What the mapping says of a history of calls. Whatever is noted for a function goes back to its
entries since the last reset: to the first one that had an identified caller, or to one from
outside. The number zero is both a function that was not identified and the mark of one that was
not called, which is why it has to be kept apart.
-/

namespace MutationTesting

-----------------------------------------------------------------------------------------
-- Entries since the last reset
-----------------------------------------------------------------------------------------

/-- The events that have not been forgotten. -/
def sinceReset (events : List CallEvent) : List CallEvent := events.rtakeWhile (· ≠ .reset)

/-- A function is entered after the first of the events, and nothing is forgotten from then on. -/
def EnteredAfter (before : List CallEvent) (function : Nat) (events : List CallEvent) : Prop :=
  ∃ after, events = before ++ .enter function :: after ∧ .reset ∉ after

theorem sinceReset_concat (events : List CallEvent) (event : CallEvent)
    : sinceReset (events ++ [event])
      = if event = .reset then [] else sinceReset events ++ [event] := by
  unfold sinceReset
  rw [List.rtakeWhile_concat]
  by_cases forgotten : event = .reset <;> simp [forgotten]

theorem not_enteredAfter_nil (before : List CallEvent) (function : Nat)
    : ¬ EnteredAfter before function [] := by
  rintro ⟨after, whole, -⟩
  simp at whole

/-- One more event may be an entry itself, and it keeps the earlier ones unless it is a reset. -/
theorem enteredAfter_concat {before events : List CallEvent} {function : Nat} {event : CallEvent}
    : EnteredAfter before function (events ++ [event])
      ↔ (event = .enter function ∧ before = events)
        ∨ (event ≠ .reset ∧ EnteredAfter before function events) := by
  constructor
  · rintro ⟨after, whole, kept⟩
    rcases List.eq_nil_or_concat' after with rfl | ⟨front, last, rfl⟩
    · obtain ⟨same, entry⟩ := List.append_inj' whole rfl
      exact .inl ⟨List.singleton_inj.mp entry, same.symm⟩
    · rw [← List.cons_append, ← List.append_assoc] at whole
      obtain ⟨same, final⟩ := List.append_inj' whole rfl
      obtain rfl := List.singleton_inj.mp final
      rw [List.mem_append, List.mem_singleton, not_or] at kept
      exact .inr ⟨Ne.symm kept.2, front, same, kept.1⟩
  · rintro (⟨rfl, rfl⟩ | ⟨kept, after, rfl, others⟩)
    · exact ⟨[], rfl, List.not_mem_nil⟩
    · refine ⟨after ++ [event], by simp, ?_⟩
      rw [List.mem_append, List.mem_singleton, not_or]
      exact ⟨others, Ne.symm kept⟩

theorem EnteredAfter.length_lt {before events : List CallEvent} {function : Nat}
    (entered : EnteredAfter before function events)
    : before.length < events.length := by
  obtain ⟨after, rfl, -⟩ := entered
  rw [List.length_append, List.length_cons]
  omega

/-- A function is entered among the events that have not been forgotten if it is entered somewhere
with no reset from then on.
-/
theorem mem_sinceReset {events : List CallEvent} {function : Nat}
    : .enter function ∈ sinceReset events ↔ ∃ before, EnteredAfter before function events := by
  induction events using List.reverseRecOn with
  | nil => simp [sinceReset, not_enteredAfter_nil]
  | append_singleton events event ih =>
      simp only [sinceReset_concat, enteredAfter_concat, exists_or, exists_and_left, ← ih]
      by_cases forgotten : event = .reset
      · simp [forgotten]
      · simp [forgotten, or_comm, eq_comm]

/-- What has not been forgotten before an entry has not been forgotten later on either. -/
theorem EnteredAfter.subset {before events : List CallEvent} {function : Nat}
    (entered : EnteredAfter before function events)
    : sinceReset before ⊆ sinceReset events := by
  induction events using List.reverseRecOn with
  | nil => exact absurd entered (not_enteredAfter_nil before function)
  | append_singleton events event ih =>
      rw [sinceReset_concat]
      rcases enteredAfter_concat.mp entered with ⟨rfl, rfl⟩ | ⟨kept, earlier⟩
      · exact List.subset_append_left _ _
      · rw [if_neg kept]
        exact List.subset_append_of_subset_left _ (ih earlier)

namespace CallRecorder

variable {recorder : CallRecorder}

theorem run_concat (recorder : CallRecorder) (events : List CallEvent) (event : CallEvent)
    : recorder.run (events ++ [event]) = (recorder.run events).step event :=
  run_append ..

theorem length_mapping_step (recorder : CallRecorder) (event : CallEvent)
    : (recorder.step event).mapping.length = recorder.mapping.length := by
  cases event with
  | enter function =>
      rcases Nat.lt_or_ge function recorder.mapping.length with known | unknown
      · simp only [step, recorder.enter_known known, List.length_set]
      · simp only [step, recorder.enter_unknown unknown]
  | leave function => rfl
  | reset => exact List.length_map _

theorem length_mapping_run (functions : Nat) (events : List CallEvent)
    : ((new functions).run events).mapping.length = functions + 1 := by
  induction events using List.reverseRecOn with
  | nil => exact List.length_replicate
  | append_singleton events event ih => rw [run_concat, length_mapping_step, ih]

/-- Only the entry of a function changes what is noted for it, unless everything is forgotten. -/
theorem caller_step (known : function < recorder.mapping.length) (event : CallEvent)
    : (recorder.step event).caller function
      = if event = .enter function then
          recorder.noted function
        else if event = .reset then
          0
        else
          recorder.caller function := by
  cases event with
  | enter other =>
      rcases Nat.lt_or_ge other recorder.mapping.length with inside | outside
      · simp only [step, recorder.enter_known inside, caller_set _ _ inside, Function.update_apply]
        by_cases same : function = other
        · simp [same]
        · simp [same, Ne.symm same, caller]
      · have other : other ≠ function := by omega
        simp [step, recorder.enter_unknown outside, other]
  | leave other => simp [step, leave, caller]
  | reset => simp [step, caller_reset]

/-- The first entry of a function below another one notes the innermost one. -/
theorem head?_of_first {function : Nat} (busy : recorder.stack ≠ [])
    (fresh : recorder.caller function = 0)
    : recorder.stack.head? = some (recorder.noted function) := by
  unfold noted
  cases stack : recorder.stack with
  | nil => exact absurd stack busy
  | cons outer rest => simp [fresh]

/-- Further entries of a function below another one change nothing. -/
theorem noted_of_called {function : Nat} (busy : recorder.stack ≠ [])
    (called : recorder.caller function ≠ 0)
    : recorder.noted function = recorder.caller function := by
  unfold noted
  cases stack : recorder.stack with
  | nil => exact absurd stack busy
  | cons outer rest => exact if_neg called

/-- What is being executed was entered since the last reset. -/
theorem mem_stack_run {functions function : Nat} {events : List CallEvent}
    (running : function ∈ ((new functions).run events).stack)
    : .enter function ∈ sinceReset events := by
  induction events using List.reverseRecOn with
  | nil => exact absurd running List.not_mem_nil
  | append_singleton events event ih =>
      rw [run_concat] at running
      rw [sinceReset_concat]
      cases event with
      | enter other =>
          simp only [reduceCtorEq, if_false, List.mem_append, List.mem_singleton,
            CallEvent.enter.injEq]
          rcases Nat.lt_or_ge other ((new functions).run events).mapping.length with known | unknown
          · simp only [step, enter_known _ known, List.mem_cons] at running
            exact running.symm.imp_left ih
          · simp only [step, enter_unknown _ unknown] at running
            exact .inl (ih running)
      | leave other =>
          simp only [reduceCtorEq, if_false, List.mem_append, List.mem_singleton, or_false]
          exact ih (List.mem_of_mem_tail running)
      | reset => exact absurd running List.not_mem_nil

/-- Whatever was forgotten does not show in the functions that are being executed. -/
theorem exists_idle_run (idle : recorder.stack = []) (events : List CallEvent)
    : ∃ start : CallRecorder,
        start.stack = [] ∧ recorder.run events = start.run (sinceReset events) := by
  induction events using List.reverseRecOn with
  | nil => exact ⟨recorder, idle, rfl⟩
  | append_singleton events event ih =>
      rw [run_concat, sinceReset_concat]
      split
      · rename_i forgotten
        subst forgotten
        exact ⟨(recorder.run events).reset, rfl, rfl⟩
      · obtain ⟨start, nothing, same⟩ := ih
        exact ⟨start, nothing, by rw [run_concat, same]⟩

-----------------------------------------------------------------------------------------
-- Functions that were not identified
-----------------------------------------------------------------------------------------

/-- A function is noted with nobody only if nobody was noted for it and the innermost call is not
identified.
-/
theorem noted_eq_zero_iff {function : Nat} (identified : function ≠ 0)
    : recorder.noted function = 0
      ↔ recorder.caller function = 0 ∧ recorder.stack.head? = some 0 := by
  by_cases busy : recorder.stack = []
  · simp [noted, busy, identified]
  · by_cases fresh : recorder.caller function = 0
    · simp [fresh, head?_of_first busy fresh]
    · simp [fresh, noted_of_called busy fresh]

/-- Nobody is noted for a function as long as each of its entries was made by a function that was
not identified, by induction on the events from the last one on.
-/
theorem caller_run_eq_zero_iff {functions function : Nat} (identified : function ≠ 0)
    (known : function ≤ functions) (events : List CallEvent)
    : ((new functions).run events).caller function = 0
      ↔ ∀ before,
          EnteredAfter before function events
          → ((new functions).run before).stack.head? = some 0 := by
  induction events using List.reverseRecOn with
  | nil =>
      simp only [not_enteredAfter_nil, false_imp_iff, implies_true, iff_true]
      exact congrFun (caller_new functions) function
  | append_singleton events event ih =>
      have inside : function < ((new functions).run events).mapping.length := by
        rw [length_mapping_run]
        omega
      rw [run_concat, caller_step inside]
      simp only [enteredAfter_concat]
      by_cases entry : event = .enter function
      · rw [if_pos entry, noted_eq_zero_iff identified, ih]
        subst entry
        simp [or_imp, forall_and, and_comm]
      · rw [if_neg entry]
        by_cases forgotten : event = .reset
        · simp [forgotten]
        · simp [forgotten, entry, ih]

/-- Number zero is taken for a call: some function that was identified called what was not, and
there was no such call from outside since then.
-/
def ZeroTaken (functions : Nat) (events : List CallEvent) : Prop :=
  ∃ before,
    EnteredAfter before 0 events
    ∧ (∃ outer ≠ 0, ((new functions).run before).stack.head? = some outer)
    ∧ ∀ later,
        EnteredAfter later 0 events
        → before.length < later.length
        → ((new functions).run later).stack ≠ []

/-- One more call of what was not identified takes number zero below an identified function, frees
it from outside and changes nothing otherwise.
-/
theorem zeroTaken_enter (functions : Nat) (events : List CallEvent)
    : ZeroTaken functions (events ++ [.enter 0])
      ↔ ((new functions).run events).stack ≠ []
        ∧ (ZeroTaken functions events
          ∨ ((new functions).run events).stack.head? ≠ some 0) := by
  constructor
  · rintro ⟨before, entered, ⟨outer, identified, below⟩, inside⟩
    rcases enteredAfter_concat.mp entered with ⟨-, rfl⟩ | ⟨-, earlier⟩
    · refine ⟨List.ne_nil_of_mem (List.mem_of_mem_head? below), .inr ?_⟩
      rw [below]
      simpa using identified
    · refine ⟨inside events (enteredAfter_concat.mpr (.inl ⟨rfl, rfl⟩)) earlier.length_lt, .inl ?_⟩
      exact ⟨before, earlier, ⟨outer, identified, below⟩, fun later next =>
        inside later (enteredAfter_concat.mpr (.inr ⟨by simp, next⟩))⟩
  · rintro ⟨busy, ⟨before, entered, below, inside⟩ | identified⟩
    · refine ⟨before, enteredAfter_concat.mpr (.inr ⟨by simp, entered⟩), below, ?_⟩
      intro later next behind
      rcases enteredAfter_concat.mp next with ⟨-, rfl⟩ | ⟨-, earlier⟩
      · exact busy
      · exact inside later earlier behind
    · obtain ⟨outer, rest, stack⟩ := List.exists_cons_of_ne_nil busy
      rw [stack] at identified
      refine ⟨events, enteredAfter_concat.mpr (.inl ⟨rfl, rfl⟩), ⟨outer, ?_, ?_⟩, ?_⟩
      · simpa using identified
      · rw [stack]
        rfl
      · intro later next behind
        rcases enteredAfter_concat.mp next with ⟨-, rfl⟩ | ⟨-, earlier⟩
        · exact absurd behind (Nat.lt_irrefl _)
        · exact absurd behind (Nat.lt_asymm earlier.length_lt)

/-- Number zero gets a caller exactly while it is taken for a call, by induction on the events from
the last one on.
-/
theorem caller_zero_run_ne_zero_iff (functions : Nat) (events : List CallEvent)
    : ((new functions).run events).caller 0 ≠ 0 ↔ ZeroTaken functions events := by
  induction events using List.reverseRecOn with
  | nil =>
      have nothing : ((new functions).run []).caller 0 = 0 := congrFun (caller_new functions) 0
      simp [ZeroTaken, nothing, not_enteredAfter_nil]
  | append_singleton events event ih =>
      have inside : 0 < ((new functions).run events).mapping.length := by
        rw [length_mapping_run]
        exact Nat.succ_pos functions
      rw [run_concat, caller_step inside]
      by_cases entry : event = .enter 0
      · subst entry
        rw [if_pos rfl, zeroTaken_enter, ← ih]
        by_cases busy : ((new functions).run events).stack = []
        · simp [noted, busy]
        · by_cases fresh : ((new functions).run events).caller 0 = 0
          · simp [busy, fresh, head?_of_first busy fresh]
          · simp [busy, fresh, noted_of_called busy fresh]
      · rw [if_neg entry]
        by_cases forgotten : event = .reset
        · simp [forgotten, ZeroTaken, enteredAfter_concat]
        · simpa [forgotten, ZeroTaken, enteredAfter_concat, entry] using ih

/-- While what is not identified is not entered, somebody is noted for every function that is. -/
theorem caller_run_ne_zero_iff {functions function : Nat} {events : List CallEvent}
    (named : .enter 0 ∉ sinceReset events) (identified : function ≠ 0)
    (known : function ≤ functions)
    : ((new functions).run events).caller function ≠ 0 ↔ .enter function ∈ sinceReset events := by
  rw [Ne, caller_run_eq_zero_iff identified known, mem_sinceReset]
  constructor
  · intro other
    obtain ⟨before, made⟩ := not_forall.mp other
    exact ⟨before, (Classical.not_imp.mp made).1⟩
  · rintro ⟨before, entered⟩ below
    have running := mem_stack_run (List.mem_of_mem_head? (below before entered))
    exact named (entered.subset running)

/-- Number zero does not stay reserved, and calls may go unrecorded. Whatever is entered and left
in any order, with unknown functions among them: number zero gets a caller exactly if it is
entered below a function that was identified, with no entry of it from outside since then; and
nobody is noted for a function that was entered exactly if all of its entries were made by what
was not identified. Neither happens while number zero is not entered.
-/
theorem run_reserved_iff (functions : Nat) (events : List CallEvent)
    : let recorder := (new functions).run events
      (recorder.caller 0 = 0 ↔ ¬ ZeroTaken functions events)
      ∧ (∀ function,
          0 < function
          → function ≤ functions
          → .enter function ∈ sinceReset events
          → (recorder.caller function ≠ 0
            ↔ ∃ before,
                EnteredAfter before function events
                ∧ ((new functions).run before).stack.head? ≠ some 0))
      ∧ (.enter 0 ∉ sinceReset events
        → recorder.caller 0 = 0
          ∧ ∀ function,
              0 < function
              → function ≤ functions
              → .enter function ∈ sinceReset events
              → recorder.caller function ≠ 0) := by
  intro recorder
  have reserved : recorder.caller 0 = 0 ↔ ¬ ZeroTaken functions events := by
    rw [← caller_zero_run_ne_zero_iff, not_not]
  refine ⟨reserved, fun function identified known _ => ?_, fun named => ⟨?_, ?_⟩⟩
  · rw [Ne, caller_run_eq_zero_iff (Nat.ne_of_gt identified) known]
    simp [not_forall]
  · rw [reserved]
    rintro ⟨before, entered, -⟩
    exact named (mem_sinceReset.mpr ⟨before, entered⟩)
  · intro function identified known entered
    exact (caller_run_ne_zero_iff named (Nat.ne_of_gt identified) known).mpr entered

/-- The first of two functions calls what is not identified, which calls the second one. The first
function is then noted for number zero, and nobody for the second one, until they are called again
after a reset.
-/
theorem sample_run_reserved_iff
    : let events : List CallEvent := [.enter 1, .enter 0, .enter 2]
      let later : List CallEvent := events ++ [.reset, .enter 1, .enter 2]
      (ZeroTaken 2 events
        ∧ .enter 2 ∈ sinceReset events
        ∧ ∀ before,
            EnteredAfter before 2 events → ((new 2).run before).stack.head? = some 0)
      ∧ .enter 0 ∉ sinceReset later
      ∧ ((new 2).run later).caller 0 = 0
      ∧ ((new 2).run later).caller 2 ≠ 0 := by
  intro events later
  obtain ⟨reserved, recorded, -⟩ := run_reserved_iff 2 events
  obtain ⟨-, -, named⟩ := run_reserved_iff 2 later
  have entered : .enter 2 ∈ sinceReset events := by decide
  have unnamed : .enter 0 ∉ sinceReset later := by decide
  refine ⟨⟨?_, entered, ?_⟩, unnamed, (named unnamed).1, ?_⟩
  · by_contra free
    exact absurd (reserved.mpr free) (by decide)
  · intro before there
    by_contra other
    exact (recorded 2 (by decide) (by decide) entered).mpr ⟨before, there, other⟩ (by decide)
  · exact (named unnamed).2 2 (by decide) (by decide) (by decide)

/-- Number zero is not reserved, and not every call is recorded: where the first of two functions
calls what is not identified and that calls the second one, the mapping is `[1, 1, 0]`.
-/
theorem not_zero_reserved
    : (¬ ∀ (functions : Nat) (events : List CallEvent),
          ((new functions).run events).caller 0 = 0)
      ∧ ¬ ∀ (functions : Nat) (events : List CallEvent) (function : Nat),
          0 < function
          → function ≤ functions
          → .enter function ∈ sinceReset events
          → ((new functions).run events).caller function ≠ 0 := by
  refine ⟨fun reserved => ?_, fun recorded => ?_⟩
  · exact absurd (reserved 2 [.enter 1, .enter 0, .enter 2]) (by decide)
  · exact recorded 2 [.enter 1, .enter 0, .enter 2] 2 (by decide) (by decide) (by decide)
      (by decide)

-----------------------------------------------------------------------------------------
-- What the mapping says
-----------------------------------------------------------------------------------------

/-- A function that was not called yet is noted as its own caller only if it is called from outside.
-/
theorem noted_eq_self_iff {function : Nat} (identified : function ≠ 0)
    (first : recorder.caller function = 0 → function ∉ recorder.stack)
    : recorder.noted function = function
      ↔ recorder.stack = [] ∨ recorder.caller function = function := by
  unfold noted
  cases stack : recorder.stack with
  | nil => simp
  | cons outer rest =>
      by_cases fresh : recorder.caller function = 0
      · have other : outer ≠ function := by
          rintro rfl
          exact first fresh (by simp [stack])
        simp [fresh, other, identified.symm]
      · simp [fresh]

/-- A function is its own caller exactly if it was called from outside since the last reset, by
induction on the events from the last one on.
-/
theorem caller_run_eq_self_iff {functions function : Nat} {events : List CallEvent}
    (named : .enter 0 ∉ sinceReset events) (identified : function ≠ 0)
    (known : function ≤ functions)
    : ((new functions).run events).caller function = function
      ↔ ∃ before,
          EnteredAfter before function events ∧ ((new functions).run before).stack = [] := by
  induction events using List.reverseRecOn with
  | nil =>
      have nothing : ((new functions).run []).caller function = 0 :=
        congrFun (caller_new functions) function
      simp [nothing, not_enteredAfter_nil, identified.symm]
  | append_singleton events event ih =>
      have inside : function < ((new functions).run events).mapping.length := by
        rw [length_mapping_run]
        omega
      rw [run_concat, caller_step inside]
      simp only [enteredAfter_concat]
      by_cases forgotten : event = .reset
      · simp [forgotten, identified.symm]
      · rw [sinceReset_concat, if_neg forgotten, List.mem_append, not_or] at named
        by_cases entry : event = .enter function
        · have first (fresh : ((new functions).run events).caller function = 0)
              : function ∉ ((new functions).run events).stack := fun running =>
            (caller_run_ne_zero_iff named.1 identified known).mpr (mem_stack_run running) fresh
          rw [if_pos entry, noted_eq_self_iff identified first, ih named.1]
          subst entry
          simp [or_and_right, exists_or]
        · rw [if_neg entry, if_neg forgotten, ih named.1]
          simp [forgotten, entry]

/-- The caller of a function that was only called by other functions is the one that called it first
since the last reset, by induction on the events from the last one on.
-/
theorem exists_first_entry {functions function : Nat} {events : List CallEvent}
    (named : .enter 0 ∉ sinceReset events) (identified : function ≠ 0)
    (known : function ≤ functions)
    (entered : .enter function ∈ sinceReset events)
    (inside
      : ∀ before,
          EnteredAfter before function events → ((new functions).run before).stack ≠ [])
    : ∃ before,
        EnteredAfter before function events
        ∧ .enter function ∉ sinceReset before
        ∧ ((new functions).run before).stack.head?
          = some (((new functions).run events).caller function) := by
  induction events using List.reverseRecOn with
  | nil => exact absurd entered List.not_mem_nil
  | append_singleton events event ih =>
      have size : function < ((new functions).run events).mapping.length := by
        rw [length_mapping_run]
        omega
      rw [run_concat, caller_step size]
      simp only [enteredAfter_concat] at inside ⊢
      rw [sinceReset_concat] at entered named
      by_cases forgotten : event = .reset
      · simp [forgotten] at entered
      · rw [if_neg forgotten, List.mem_append, List.mem_singleton] at entered named
        rw [not_or] at named
        have earlier (before : List CallEvent) (there : EnteredAfter before function events)
            : ((new functions).run before).stack ≠ [] :=
          inside before (.inr ⟨forgotten, there⟩)
        -- The function was entered before, so that its caller stays, or this is its first entry.
        by_cases called : .enter function ∈ sinceReset events
        · obtain ⟨before, there, first, outer⟩ := ih named.1 called earlier
          refine ⟨before, .inr ⟨forgotten, there⟩, first, outer.trans (congrArg some ?_)⟩
          by_cases entry : event = .enter function
          · rw [if_pos entry, noted_of_called (inside events (.inl ⟨entry, rfl⟩))]
            exact (caller_run_ne_zero_iff named.1 identified known).mpr called
          · rw [if_neg entry, if_neg forgotten]
        · obtain rfl : .enter function = event := entered.resolve_left called
          refine ⟨events, .inl ⟨rfl, rfl⟩, called, ?_⟩
          have fresh : ((new functions).run events).caller function = 0 := by
            by_contra noted
            exact called ((caller_run_ne_zero_iff named.1 identified known).mp noted)
          rw [if_pos rfl]
          exact head?_of_first (inside events (.inl ⟨rfl, rfl⟩)) fresh

/-- What the mapping says, as long as every function that is entered since the last reset was
identified, whatever is left: nobody is noted for a function that was not entered; a function is
noted as its own caller if it was entered from outside at least once; and otherwise the function
that was being executed innermost at its first entry is noted. If the events since the last reset
are properly nested, nothing is being executed in the end.
-/
theorem run_firstCallers (functions : Nat) (events : List CallEvent)
    (named : .enter 0 ∉ sinceReset events)
    : let recorder := (new functions).run events
      (∀ function,
          0 < function
          → function ≤ functions
          → (recorder.caller function = 0 ↔ .enter function ∉ sinceReset events)
            ∧ (recorder.caller function = function
              ↔ ∃ before,
                  EnteredAfter before function events ∧ ((new functions).run before).stack = [])
            ∧ (.enter function ∈ sinceReset events
              → recorder.caller function ≠ function
              → ∃ before,
                  EnteredAfter before function events
                  ∧ .enter function ∉ sinceReset before
                  ∧ ((new functions).run before).stack.head? = some (recorder.caller function)))
      ∧ (Nested (sinceReset events) → recorder.stack = []) := by
  intro recorder
  refine ⟨fun function positive known => ?_, fun nested => ?_⟩
  · have identified := Nat.ne_of_gt positive
    have own := caller_run_eq_self_iff named identified known
    refine ⟨?_, own, fun entered other => ?_⟩
    · rw [← caller_run_ne_zero_iff named identified known, not_not]
    · refine exists_first_entry named identified known entered fun before there idle => ?_
      exact other (own.mpr ⟨before, there, idle⟩)
  · have resting : (new functions).stack = [] := rfl
    obtain ⟨start, idle, same⟩ := exists_idle_run resting events
    have nothing := stack_run_of_closed nested (Nat.le_of_eq (congrArg List.length idle))
    exact (congrArg stack same).trans nothing

/-- The first of four functions calls the second one, which calls the third one; then the third
one is called from outside and calls the second one again. The fourth one was called before the
reset only.
-/
theorem sample_run_firstCallers
    : let events : List CallEvent :=
        [.leave 3, .enter 4, .enter 0, .reset, .enter 1, .enter 2, .enter 3, .leave 3, .leave 2,
          .leave 1, .enter 3, .enter 2, .leave 2, .leave 3]
      let recorder := (new 4).run events
      .enter 0 ∉ sinceReset events
      ∧ Nested (sinceReset events)
      ∧ recorder = { mapping := [0, 1, 1, 3, 0], stack := [] }
      ∧ .enter 4 ∉ sinceReset events
      ∧ (∃ before, EnteredAfter before 3 events ∧ ((new 4).run before).stack = [])
      ∧ (∃ before,
          EnteredAfter before 2 events
          ∧ .enter 2 ∉ sinceReset before
          ∧ ((new 4).run before).stack.head? = some 1) := by
  intro events recorder
  have named : .enter 0 ∉ sinceReset events := by decide
  have nested : Nested (sinceReset events) := by decide
  have mapping : recorder.mapping = [0, 1, 1, 3, 0] := by decide
  obtain ⟨noted, idle⟩ := run_firstCallers 4 events named
  refine ⟨named, nested, congrArg₂ mk mapping (idle nested), ?_, ?_, ?_⟩
  · exact (noted 4 (by decide) (by decide)).1.mp (by decide)
  · exact (noted 3 (by decide) (by decide)).2.1.mp (by decide)
  · exact (noted 2 (by decide) (by decide)).2.2 (by decide) (by decide)

end CallRecorder

end MutationTesting
