import MutationTesting.Proofs.Linking.Meaning
import MutationTesting.Proofs.Program.Correspondence

/-! Calls in two programs whose targets lead to the same code. The code in turn calls only such
targets, so that the programs cannot be told apart at any depth.
-/

namespace MutationTesting

/-- A target that is given by name. -/
def CallTarget.Named : CallTarget → Prop
  | .symbol _ => True
  | .address _ => False

namespace LoadedProgram

-----------------------------------------------------------------------------------------
-- What calls reach
-----------------------------------------------------------------------------------------

/-- A call by name reaches what the name means in the image, by way of a slot if it stands for one.
-/
theorem callee_symbol {program : LoadedProgram} (sound : program.image.Sound) (name : String)
    : program.callee (.symbol name)
      = match program.image.meaning? name with
        | some (.function body) => .ok body
        | some (.slot handle) =>
            match program.target? handle with
            | some address => program.bodyAt address.raw
            | none => .error (.emptyTrampoline name)
        | none => .error (.unresolvedSymbol name) := by
  cases bound : program.image.binding? name with
  | none => simp only [callee, Image.meaning?, bound]
  | some binding =>
      cases binding with
      | slot handle =>
          cases target : program.target? handle <;>
            simp only [callee, Image.meaning?, bound, target]
      | function address =>
          obtain ⟨body, found⟩ := sound name address bound
          simp only [callee, Image.meaning?, bound, bodyAt, found, Option.map_some]

theorem mem_of_bodyAt {program : LoadedProgram} {raw : Nat} {body : Body}
    (found : program.bodyAt raw = .ok body)
    : body ∈ program.image.functions := by
  unfold bodyAt at found
  split at found
  · rename_i there
    obtain rfl : _ = body := by simpa using found
    exact Image.mem_of_function? there
  · simp at found

/-- Whatever a call reaches is code of the image. -/
theorem mem_of_callee {program : LoadedProgram} {target : CallTarget} {body : Body}
    (reached : program.callee target = .ok body)
    : body ∈ program.image.functions := by
  unfold callee at reached
  split at reached
  · exact mem_of_bodyAt reached
  · split at reached
    · exact mem_of_bodyAt reached
    · split at reached
      · exact mem_of_bodyAt reached
      · simp at reached
    · simp at reached

/-- A call that reaches some code runs it, with nested calls one level deeper. -/
theorem callWithin_of_callee {program : LoadedProgram} {target : CallTarget} {body : Body}
    (reached : program.callee target = .ok body) (depth : Nat) (args : List Int64)
    : program.callWithin (depth + 1) target args
      = body.eval (program.callWithin depth) args := by
  simp only [callWithin, reached]

theorem call_of_callee {program : LoadedProgram} {target : CallTarget} {body : Body}
    (reached : program.callee target = .ok body) (args : List Int64)
    : program.call target args = body.eval (program.callWithin (deepestCall - 1)) args :=
  callWithin_of_callee reached (deepestCall - 1) args

-----------------------------------------------------------------------------------------
-- Two programs that cannot be told apart
-----------------------------------------------------------------------------------------

/-- The allowed targets lead to the same code in both programs, and the code calls nothing
else.
-/
structure SameCallees (allowed : CallTarget → Prop) (left right : LoadedProgram) : Prop where
  same : ∀ target, allowed target → left.callee target = right.callee target
  closed
    : ∀ target body,
        allowed target → left.callee target = .ok body → body.CallsOnly allowed

theorem SameCallees.refl (program : LoadedProgram)
    : SameCallees (fun _ => True) program program where
  same _ _ := rfl
  closed _ body _ _ := body.callsOnly_true

variable {alike : (α : Type) → Exec α → Exec α → Prop} {allowed : CallTarget → Prop}
  {left right : LoadedProgram}

/-- Calls to allowed targets are alike at every depth.
Witness: induction on the depth; both programs run the same body, whose calls nest one level
less deep.
-/
theorem callWithin_congruent (congruence : Exec.Congruence alike)
    (callees : SameCallees allowed left right) (depth : Nat) (target : CallTarget)
    (args : List Int64) (member : allowed target)
    : alike Int64 (left.callWithin depth target args) (right.callWithin depth target args) := by
  induction depth generalizing target args with
  | zero => exact congruence.stop .unfinished
  | succ depth ih =>
      simp only [callWithin, ← callees.same target member]
      cases reached : left.callee target with
      | error fault => exact congruence.stop _
      | ok body =>
          exact Body.eval_congruent congruence ih args body
            (callees.closed target body member reached)

theorem call_congruent (congruence : Exec.Congruence alike)
    (callees : SameCallees allowed left right) {target : CallTarget} (args : List Int64)
    (member : allowed target)
    : alike Int64 (left.call target args) (right.call target args) :=
  callWithin_congruent congruence callees deepestCall target args member

/-- Programs in which all names lead to the same code answer alike at every depth, when that code
calls by name only.
-/
theorem callWithin_eq_of_callee
    (named : ∀ body ∈ left.image.functions, body.CallsOnly CallTarget.Named)
    (same : ∀ name, left.callee (.symbol name) = right.callee (.symbol name)) (depth : Nat)
    (name : String) (args : List Int64)
    : left.callWithin depth (.symbol name) args = right.callWithin depth (.symbol name) args := by
  have callees : SameCallees CallTarget.Named left right := by
    refine ⟨fun target member => ?_, fun target body _ reached => ?_⟩
    · cases target with
      | symbol name => exact same name
      | address raw => exact False.elim member
    · exact named body (mem_of_callee reached)
  have byName : CallTarget.Named (.symbol name) := trivial
  exact (callWithin_congruent Exec.Respected.eq.congruence callees depth _ args byName).eq

-----------------------------------------------------------------------------------------
-- More depth
-----------------------------------------------------------------------------------------

/-- Calls that may nest deeper do the same, unless the first ones are left unfinished.
Witness: induction on the depth of the first calls; only calls without any depth left differ.
-/
theorem callWithin_extended (program : LoadedProgram) {depth deeper : Nat} (le : depth ≤ deeper)
    (target : CallTarget) (args : List Int64)
    : Exec.ExtendedBy (program.callWithin depth target args)
        (program.callWithin deeper target args) := by
  induction depth generalizing deeper target args with
  | zero => exact fun _ => .inl rfl
  | succ depth ih =>
      obtain ⟨rest, rfl⟩ : ∃ rest, deeper = rest + 1 := ⟨deeper - 1, by omega⟩
      simp only [callWithin]
      cases program.callee target with
      | error fault => exact Exec.extendedBy_congruence.stop _
      | ok body =>
          exact Body.eval_congruent Exec.extendedBy_congruence
            (fun target values _ => ih (Nat.le_of_succ_le_succ le) target values) args body
            body.callsOnly_true

/-- A call that comes to its end does so alike with any more depth. -/
theorem callWithin_of_finished {program : LoadedProgram} {depth deeper : Nat} (le : depth ≤ deeper)
    {target : CallTarget} {args : List Int64} {process : ProcessState}
    (finished : (program.callWithin depth target args process).1 ≠ .error .unfinished)
    : program.callWithin deeper target args process
      = program.callWithin depth target args process :=
  ((program.callWithin_extended le target args process).resolve_left finished).symm

end LoadedProgram

/-- A test is alike in another program when the call of its entry is. -/
theorem UnitTest.run_congruent {alike : (α : Type) → Exec α → Exec α → Prop}
    (congruence : Exec.Congruence alike) (test : UnitTest) {left right : LoadedProgram}
    (calls : alike Int64 (left.call (.symbol test.entry) []) (right.call (.symbol test.entry) []))
    : alike ExecutionStatus (test.run left) (test.run right) := by
  unfold UnitTest.run
  cases test.action with
  | report status => exact congruence.pure status
  | callEntry =>
      refine congruence.bind (congruence.catchFault calls) fun outcome => ?_
      cases outcome with
      | ok value => exact congruence.pure (ExecutionStatus.ofReturned value)
      | error fault => exact congruence.pure ExecutionStatus.crashed

end MutationTesting
