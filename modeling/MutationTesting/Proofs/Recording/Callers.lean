import Mathlib.Logic.Function.Basic
import MutationTesting.Proofs.Recording.TreeBuilding
import MutationTesting.Recording.CallRecorder

/-! Nothing that is recorded is lost. The callers that are noted never form a circle, since a caller
is noted only for a function that had none and the caller itself had one by then; a call from
outside only cuts a function off from its former caller. Hence every function that was called is
found in the tree of the mapping, below its caller, and no other function is.
-/

namespace MutationTesting

-----------------------------------------------------------------------------------------
-- Callers in an order
-----------------------------------------------------------------------------------------

/-- The callers of functions come in an order: whoever was called by another function comes behind
it, and that function was called itself. A function that was called from outside is its own caller,
and one that was not called has the caller zero.
-/
structure OrderedCallers (caller rank : Nat → Nat) : Prop where
  nobody : caller 0 = 0
  called
    : ∀ function,
        caller function ≠ 0
        → caller function = function
          ∨ caller (caller function) ≠ 0 ∧ rank (caller function) < rank function

/-- Following callers leads from a function to one that was called from outside: the functions met
on the way were each called by the next one, and none of them is met twice.
-/
structure CallerChain (caller : Nat → Nat) (function : Nat) (chain : List Nat) : Prop where
  first : chain.head? = some function
  calls : chain.IsChain fun callee outer => caller callee = outer
  distinct : chain.Nodup
  outside : ∃ root, chain.getLast? = some root ∧ root ≠ 0 ∧ caller root = root

namespace OrderedCallers

variable {caller rank : Nat → Nat}

/-- A call from outside keeps callers in their order: it only shortens chains. -/
theorem outside (ordered : OrderedCallers caller rank) {function : Nat} (known : function ≠ 0)
    : OrderedCallers (Function.update caller function function) rank where
  nobody := by
    rw [Function.update_of_ne known.symm]
    exact ordered.nobody
  called other noted := by
    by_cases same : other = function
    · subst same
      exact .inl (Function.update_self ..)
    · rw [Function.update_of_ne same] at noted ⊢
      rcases ordered.called other noted with own | ⟨outer, earlier⟩
      · exact .inl own
      · refine .inr ⟨?_, earlier⟩
        by_cases moved : caller other = function
        · rw [moved, Function.update_self]
          exact known
        · rw [Function.update_of_ne moved]
          exact outer

/-- The first call of a function puts it behind its caller. No function has it as its caller yet,
since callers were called before.
-/
theorem first (ordered : OrderedCallers caller rank) {function outer : Nat} (known : function ≠ 0)
    (fresh : caller function = 0) (running : caller outer ≠ 0)
    : OrderedCallers (Function.update caller function outer)
        (Function.update rank function (rank outer + 1)) where
  nobody := by
    rw [Function.update_of_ne known.symm]
    exact ordered.nobody
  called other noted := by
    -- Whoever was called is another function, so that its caller and its rank stay as they were.
    have stays (callee : Nat) (called : caller callee ≠ 0) : callee ≠ function := by
      rintro rfl
      exact called fresh
    by_cases same : other = function
    · subst same
      rw [Function.update_self, Function.update_self, Function.update_of_ne (stays outer running),
        Function.update_of_ne (stays outer running)]
      exact .inr ⟨running, Nat.lt_succ_self _⟩
    · rw [Function.update_of_ne same] at noted ⊢
      rcases ordered.called other noted with own | ⟨called, earlier⟩
      · exact .inl own
      · rw [Function.update_of_ne (stays _ called), Function.update_of_ne (stays _ called),
          Function.update_of_ne same]
        exact .inr ⟨called, earlier⟩

/-- What holds of functions called from outside, and of a function when it holds of its caller,
holds of every function that was called. By induction on the order.
-/
theorem holds_of_called (ordered : OrderedCallers caller rank) (holds : Nat → Prop)
    (root : ∀ function, function ≠ 0 → caller function = function → holds function)
    (call
      : ∀ function,
          caller function ≠ 0
          → caller function ≠ function
          → rank (caller function) < rank function
          → holds (caller function)
          → holds function)
    {function : Nat} (noted : caller function ≠ 0)
    : holds function := by
  induction bound : rank function using Nat.strongRecOn generalizing function with
  | _ bound ih =>
      by_cases own : caller function = function
      · exact root function (own ▸ noted) own
      · rcases ordered.called function noted with same | ⟨called, earlier⟩
        · exact absurd same own
        · subst bound
          exact call function noted own earlier (ih _ earlier called rfl)

/-- Following callers never leads in a circle: it goes back in the order. -/
theorem exists_chain (ordered : OrderedCallers caller rank) {function : Nat}
    (noted : caller function ≠ 0)
    : ∃ chain, CallerChain caller function chain := by
  -- No function further up the chain comes later than the first one, so none is met again.
  suffices back : ∃ chain,
      CallerChain caller function chain ∧ ∀ met ∈ chain, rank met ≤ rank function by
    obtain ⟨chain, leads, -⟩ := back
    exact ⟨chain, leads⟩
  refine ordered.holds_of_called
    (fun function =>
      ∃ chain, CallerChain caller function chain ∧ ∀ met ∈ chain, rank met ≤ rank function)
    (fun root known own => ?_) (fun function _ _ earlier others => ?_) noted
  · refine ⟨[root], ⟨rfl, .singleton root, List.nodup_singleton root, root, rfl, known, own⟩, ?_⟩
    simp
  · obtain ⟨chain, leads, back⟩ := others
    have apart : function ∉ chain := by
      intro member
      have notLater := back function member
      omega
    obtain ⟨root, last, outside⟩ := leads.outside
    obtain ⟨rest, starts⟩ := List.head?_eq_some_iff.mp leads.first
    refine ⟨function :: chain, ⟨rfl, ?_, ?_, root, ?_, outside⟩, ?_⟩
    · have calls := leads.calls
      rw [starts] at calls ⊢
      exact calls.cons_cons rfl
    · exact List.nodup_cons.mpr ⟨apart, leads.distinct⟩
    · rw [List.getLast?_cons, last]
      rfl
    · intro met member
      rcases List.mem_cons.mp member with rfl | later
      · exact Nat.le_refl _
      · exact Nat.le_of_lt (Nat.lt_of_le_of_lt (back met later) earlier)

end OrderedCallers

-----------------------------------------------------------------------------------------
-- Recorders
-----------------------------------------------------------------------------------------

namespace CallRecorder

/-- What is noted for a function: its first caller, itself if it was called from outside, and zero
as long as it has not been called.
-/
def caller (recorder : CallRecorder) (function : Nat) : Nat := recorder.mapping.getD function 0

/-- What is noted for a function once it is entered. -/
def noted (recorder : CallRecorder) (function : Nat) : Nat :=
  match recorder.stack with
  | [] => function
  | outer :: _ => if recorder.caller function = 0 then outer else recorder.caller function

theorem enter_known (recorder : CallRecorder) {function : Nat}
    (known : function < recorder.mapping.length)
    : recorder.enter function
      = {
          mapping := recorder.mapping.set function (recorder.noted function)
          stack := function :: recorder.stack
        } := by
  have here : recorder.mapping[function]? = some (recorder.caller function) := by
    rw [List.getElem?_eq_getElem known]
    simp [caller, known]
  unfold enter noted
  rw [here]
  cases recorder.stack with
  | nil => rfl
  | cons outer rest =>
      by_cases fresh : recorder.caller function = 0
      · simp only [fresh, if_true]
      · have unchanged : recorder.mapping.set function (recorder.caller function)
            = recorder.mapping := by
          simp [caller, known]
        simp only [fresh, if_false, unchanged]

theorem enter_unknown (recorder : CallRecorder) {function : Nat}
    (unknown : recorder.mapping.length ≤ function)
    : recorder.enter function = recorder := by
  unfold enter
  rw [List.getElem?_eq_none unknown]

theorem caller_set (mapping stack : List Nat) {function : Nat} (known : function < mapping.length)
    (outer : Nat)
    : caller { mapping := mapping.set function outer, stack }
      = Function.update (caller { mapping, stack }) function outer := by
  funext other
  unfold caller
  rw [List.getD_eq_getElem?_getD, List.getElem?_set]
  by_cases same : function = other
  · subst same
    simp [known]
  · rw [if_neg same, Function.update_of_ne (Ne.symm same), List.getD_eq_getElem?_getD]

theorem caller_reset (recorder : CallRecorder) : recorder.reset.caller = fun _ => 0 := by
  funext function
  unfold caller reset
  rw [List.getD_eq_getElem?_getD, List.getElem?_map]
  cases recorder.mapping[function]? <;> rfl

theorem caller_new (functions : Nat) : (new functions).caller = fun _ => 0 := by
  funext function
  unfold caller new
  rw [List.getD_eq_getElem?_getD, List.getElem?_replicate]
  split <;> rfl

/-- The callers of a recorder come in an order, and whatever is being executed was called. -/
structure Orderly (recorder : CallRecorder) (rank : Nat → Nat) : Prop where
  ordered : OrderedCallers recorder.caller rank
  running : ∀ function ∈ recorder.stack, recorder.caller function ≠ 0

/-- A recorder without calls is orderly. -/
theorem Orderly.of_empty {recorder : CallRecorder} (nothing : recorder.caller = fun _ => 0)
    (idle : recorder.stack = [])
    : recorder.Orderly fun _ => 0 where
  ordered := ⟨congrFun nothing 0, fun function called => absurd (congrFun nothing function) called⟩
  running := by simp [idle]

/-- A function that is entered is noted in order, whether it is called from outside, for the first
time or again.
-/
theorem Orderly.noted {recorder : CallRecorder} {rank : Nat → Nat} (orderly : recorder.Orderly rank)
    {function : Nat} (identified : function ≠ 0)
    : recorder.noted function ≠ 0
      ∧ ∃ rank,
          OrderedCallers (Function.update recorder.caller function (recorder.noted function)) rank
      := by
  unfold CallRecorder.noted
  cases stack : recorder.stack with
  | nil => exact ⟨identified, rank, orderly.ordered.outside identified⟩
  | cons outer rest =>
      have running : recorder.caller outer ≠ 0 := orderly.running outer (by simp [stack])
      by_cases fresh : recorder.caller function = 0
      · simp only [fresh, if_true]
        refine ⟨?_, _, orderly.ordered.first identified fresh running⟩
        rintro rfl
        exact running orderly.ordered.nobody
      · simp only [fresh, if_false, Function.update_eq_self]
        exact ⟨fresh, rank, orderly.ordered⟩

/-- Entering a function keeps a recorder orderly. -/
theorem Orderly.enter {recorder : CallRecorder} {rank : Nat → Nat} (orderly : recorder.Orderly rank)
    {function : Nat} (identified : function ≠ 0)
    : ∃ rank, (recorder.enter function).Orderly rank := by
  rcases Nat.lt_or_ge function recorder.mapping.length with known | unknown
  · obtain ⟨called, later, ordered⟩ := orderly.noted identified
    have callers : (recorder.enter function).caller
        = Function.update recorder.caller function (recorder.noted function) := by
      rw [recorder.enter_known known]
      exact caller_set recorder.mapping _ known _
    refine ⟨later, callers ▸ ordered, fun other member => ?_⟩
    rw [recorder.enter_known known] at member
    rw [callers]
    by_cases same : other = function
    · rw [same, Function.update_self]
      exact called
    · rw [Function.update_of_ne same]
      rcases List.mem_cons.mp member with entered | before
      · exact absurd entered same
      · exact orderly.running other before
  · rw [recorder.enter_unknown unknown]
    exact ⟨rank, orderly⟩

/-- Every event but the entry of an unidentified function keeps a recorder orderly, with as many
functions as before.
-/
theorem Orderly.step {recorder : CallRecorder} {rank : Nat → Nat} (orderly : recorder.Orderly rank)
    {event : CallEvent} (identified : event ≠ .enter 0)
    : (∃ rank, (recorder.step event).Orderly rank)
      ∧ (recorder.step event).mapping.length = recorder.mapping.length := by
  cases event with
  | enter function =>
      have known : function ≠ 0 := by
        rintro rfl
        exact identified rfl
      refine ⟨orderly.enter known, ?_⟩
      rcases Nat.lt_or_ge function recorder.mapping.length with inside | outside
      · simp only [CallRecorder.step, recorder.enter_known inside, List.length_set]
      · simp only [CallRecorder.step, recorder.enter_unknown outside]
  | leave function =>
      refine ⟨⟨rank, orderly.ordered, fun other member => ?_⟩, rfl⟩
      exact orderly.running other (List.mem_of_mem_tail member)
  | reset => exact ⟨⟨_, .of_empty recorder.caller_reset rfl⟩, List.length_map _⟩

/-- A recorder stays orderly whatever is reported to it, by induction on the events. -/
theorem Orderly.run {recorder : CallRecorder} {rank : Nat → Nat} (orderly : recorder.Orderly rank)
    {events : List CallEvent} (identified : .enter 0 ∉ events)
    : (∃ rank, (recorder.run events).Orderly rank)
      ∧ (recorder.run events).mapping.length = recorder.mapping.length := by
  induction events generalizing recorder rank with
  | nil => exact ⟨⟨rank, orderly⟩, rfl⟩
  | cons event rest ih =>
      rw [List.mem_cons, not_or] at identified
      obtain ⟨⟨later, stays⟩, size⟩ := orderly.step (Ne.symm identified.1)
      obtain ⟨last, length⟩ := ih stays identified.2
      exact ⟨last, length.trans size⟩

-----------------------------------------------------------------------------------------
-- The tree of what was recorded
-----------------------------------------------------------------------------------------

/-- The node below which a function hangs: its caller, or the root if it was called from outside. -/
def nodeAbove (recorder : CallRecorder) (function : Nat) : Nat :=
  if recorder.caller function = function then 0 else recorder.caller function

section

variable {recorder : CallRecorder} {rank : Nat → Nat} {functions : List String}

/-- Only numbers of functions have callers. -/
theorem lt_of_called {function : Nat} (called : recorder.caller function ≠ 0)
    : function < recorder.mapping.length := by
  by_contra beyond
  apply called
  rw [caller, List.getD_eq_getElem?_getD, List.getElem?_eq_none (Nat.le_of_not_lt beyond)]
  rfl

/-- Every function that was called is attached to the node of its caller, which is a node itself. -/
theorem Orderly.attached (orderly : recorder.Orderly rank)
    (size : recorder.mapping.length = functions.length + 1) {function : Nat}
    (called : recorder.caller function ≠ 0)
    : (CallTree.parents recorder.mapping
          (CallTree.nodeCount recorder.mapping functions))[function]?
      = some (some (recorder.nodeAbove function)) := by
  have count : CallTree.nodeCount recorder.mapping functions = recorder.mapping.length := by
    rw [CallTree.nodeCount, size, Nat.min_self]
  have identified : function ≠ 0 := by
    rintro rfl
    exact called orderly.ordered.nobody
  rw [count, CallTree.getElem?_parents, if_pos (lt_of_called called)]
  unfold CallTree.parent? nodeAbove
  change some (if function = 0 ∨ recorder.caller function = 0 then none else _) = _
  rw [if_neg (by simp [identified, called])]
  congr 1
  by_cases own : recorder.caller function = function
  · rw [if_pos own, if_pos (.inl own)]
  · have outer := (orderly.ordered.called function called).resolve_left own
    have inside := lt_of_called outer.1
    -- The caller is a node that was called, so the builder does not move the function to the root.
    have elsewhere
        : ¬(recorder.caller function = function
            ∨ recorder.mapping.length ≤ recorder.caller function
            ∨ recorder.caller (recorder.caller function) = 0) := by
      rintro (same | beyond | uncalled)
      · exact own same
      · exact absurd inside (Nat.not_lt.mpr beyond)
      · exact outer.1 uncalled
    rw [if_neg own]
    exact if_neg elsewhere

/-- The tree of a recorder has every function that was called at one place, below its caller. -/
theorem Orderly.hangsOnce (orderly : recorder.Orderly rank)
    (size : recorder.mapping.length = functions.length + 1) {function : Nat}
    (called : recorder.caller function ≠ 0)
    : (CallTree.ofMapping recorder.mapping functions).HangsOnce (recorder.nodeAbove function)
        function := by
  have filled : recorder.mapping ≠ [] := List.ne_nil_of_length_eq_add_one size
  have grown := CallTree.grown_ofMapping recorder.mapping functions
  refine orderly.ordered.holds_of_called
    (fun function =>
      (CallTree.ofMapping recorder.mapping functions).HangsOnce (recorder.nodeAbove function)
        function)
    (fun root known own => ?_) (fun function noted other _ above => ?_) called
  · have start : (CallTree.ofMapping recorder.mapping functions).follow? 0 []
        = some (recorder.nodeAbove root) := by
      rw [nodeAbove, if_pos own]
      rfl
    have attached := orderly.attached size (own ▸ known)
    exact grown.hangsOnce start (CallTree.child_of_attached filled start attached)
  · obtain ⟨path, leads⟩ := above.exists_path
    have same : recorder.nodeAbove function = recorder.caller function := if_neg other
    rw [← same] at leads
    exact grown.hangsOnce leads
      (CallTree.child_of_attached filled leads (orderly.attached size noted))

/-- Apart from its root the tree of a recorder has only functions that were called. -/
theorem called_of_path {function : Nat} {path : List Nat} (other : function ≠ 0)
    (leads : (CallTree.ofMapping recorder.mapping functions).follow? 0 path = some function)
    : recorder.caller function ≠ 0 := by
  rcases List.eq_nil_or_concat' path with rfl | ⟨front, position, rfl⟩
  · exact absurd (Option.some.inj leads).symm other
  · rw [CallTree.follow?_concat] at leads
    obtain ⟨above, -, child⟩ := Option.bind_eq_some_iff.mp leads
    have hangs := CallTree.parent?_of_child (List.mem_of_getElem? child)
    intro uncalled
    have nowhere (count : Nat) : CallTree.parent? recorder.mapping count function = none :=
      if_pos (.inr uncalled)
    rw [nowhere] at hangs
    contradiction

end

/-- Nothing that is recorded is lost. Whatever functions are reported as entered and left, in any
order, with unknown functions among them and with resets in between: following callers from a
function that was called leads to one that was called from outside and never in a circle; a tree is
built of what was recorded, since no look-up fails on the way and levels have room in 32 bits;
exactly one path of this tree leads from the root to a function that was called, and the node before
it is its caller, or the root for a call from outside; and no path leads to a function that was not
called.
-/
theorem run_nothing_lost (functions : List String) (events : List CallEvent)
    (identified : .enter 0 ∉ events) (small : functions.length < UInt32.size)
    : let recorder := (new functions.length).run events
      (∀ function,
          recorder.caller function ≠ 0 → ∃ chain, CallerChain recorder.caller function chain)
      ∧ ∃ tree,
          CallTree.build? recorder.mapping functions = some tree
          ∧ (∀ function,
              recorder.caller function ≠ 0
              → tree.HangsOnce (recorder.nodeAbove function) function)
          ∧ ∀ function path,
              function ≠ 0
              → tree.follow? 0 path = some function
              → recorder.caller function ≠ 0 := by
  intro recorder
  have fresh : (new functions.length).Orderly fun _ => 0 := .of_empty (caller_new _) rfl
  obtain ⟨⟨rank, orderly⟩, same⟩ := fresh.run identified
  have size : recorder.mapping.length = functions.length + 1 := by
    rw [same, new, List.length_replicate]
  have filled : recorder.mapping ≠ [] := List.ne_nil_of_length_eq_add_one size
  exact ⟨fun function called => orderly.ordered.exists_chain called,
    CallTree.ofMapping recorder.mapping functions, CallTree.build?_eq_ofMapping filled small,
    fun function called => orderly.hangsOnce size called,
    fun function path other leads => called_of_path other leads⟩

/-- Four functions, of which the second calls itself, the fifth that is entered is not known, and
more functions are left than were entered. The second function is called from outside in the end,
which cuts it off from the first, and calls the third.
-/
theorem sample_run_nothing_lost
    : let events : List CallEvent :=
        [.enter 4, .reset, .enter 1, .enter 2, .enter 2, .enter 5, .leave 5, .leave 2, .leave 2,
          .leave 1, .enter 2, .enter 3]
      let recorder := (new 4).run events
      .enter 0 ∉ events
      ∧ recorder.mapping = [0, 1, 2, 2, 0]
      ∧ (∃ chain, CallerChain recorder.caller 3 chain)
      ∧ ∃ tree,
          CallTree.build? recorder.mapping ["a", "b", "c", "d"] = some tree
          ∧ tree.HangsOnce 0 2
          ∧ tree.HangsOnce 2 3
          ∧ ∀ path, tree.follow? 0 path ≠ some 4 := by
  intro events recorder
  have identified : .enter 0 ∉ events := by decide
  obtain ⟨chains, tree, built, hangs, called⟩ :=
    run_nothing_lost ["a", "b", "c", "d"] events identified (by decide)
  refine ⟨identified, by decide, chains 3 (by decide), tree, built, ?_, ?_, ?_⟩
  · exact hangs 2 (by decide)
  · exact hangs 3 (by decide)
  · intro path leads
    exact called 4 path (by decide) leads (by decide)

end CallRecorder

end MutationTesting
