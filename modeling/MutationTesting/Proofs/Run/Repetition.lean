import MutationTesting.Proofs.Run.PointRuns
import MutationTesting.Proofs.Sandbox.Steadiness
import MutationTesting.Proofs.Scheduling.SequentialPass

/-! A point comes to the same whenever it is run, provided that the sandbox repeats its results. How
much of a result has to be the same is a parameter.
-/

namespace MutationTesting

-----------------------------------------------------------------------------------------
-- States that are not left
-----------------------------------------------------------------------------------------

/-- The sandbox when it is only ever in some states, which its calls do not leave. -/
def Sandbox.within (sandbox : Sandbox σ) {states : σ → Prop}
    (stays
      : ∀ trial timeout state, states state → states (sandbox.run trial timeout state).2)
    : Sandbox {state // states state} where
  name := sandbox.name
  run trial timeout := fun state =>
    let ran := sandbox.run trial timeout state.val
    (ran.1, ⟨ran.2, stays trial timeout state.val state.property⟩)

theorem Sandbox.within_actsLike (sandbox : Sandbox σ) {states : σ → Prop}
    (stays
      : ∀ trial timeout state, states state → states (sandbox.run trial timeout state).2)
    : (sandbox.within stays).ActsLike sandbox Subtype.val :=
  fun _ _ _ => rfl

/-- What a sandbox repeats in some states it repeats in all states that there are within these. -/
theorem Sandbox.Repeats.within {sandbox : Sandbox σ} {states : σ → Prop}
    {shown : ExecutionResult → ExecutionResult} (repeats : sandbox.Repeats states shown)
    : (sandbox.within repeats.stays).Repeats (fun _ => True) shown where
  tells := repeats.tells
  stays _ _ _ _ := trivial
  agrees trial timeout first second _ _ :=
    repeats.agrees trial timeout first.val second.val first.property second.property

-----------------------------------------------------------------------------------------
-- Points
-----------------------------------------------------------------------------------------

/-- What is shown of the result of a test. -/
def MutationResult.view (shown : ExecutionResult → ExecutionResult) (result : MutationResult)
    : MutationResult :=
  { result with result := shown result.result }

namespace MutantRuns

variable {setup : MutantRuns σ} {states : σ → Prop} {shown : ExecutionResult → ExecutionResult}
  {point : MutationPoint} {program : LoadedProgram}

/-- In two states of a sandbox that repeats itself the next test of a point comes to the same. -/
theorem nextResult_agrees (program : LoadedProgram) (repeats : setup.sandbox.Repeats states shown)
    (isKilled : Bool) (reachable : ReachableTest) {first second : σ} (left : states first)
    (right : states second)
    : ∃ answer other after next,
        setup.nextResult isKilled reachable { program, sandbox := first }
          = (answer, { program, sandbox := after })
        ∧ setup.nextResult isKilled reachable { program, sandbox := second }
          = (other, { program, sandbox := next })
        ∧ answer.map shown = other.map shown
        ∧ states after
        ∧ states next := by
  cases skips : setup.failFast && isKilled with
  | true =>
      rw [setup.nextResult_skip skips, setup.nextResult_skip skips]
      exact ⟨_, _, first, second, rfl, rfl, rfl, left, right⟩
  | false =>
      rw [setup.nextResult_run skips, runTest_apply, runTest_apply]
      exact ⟨_, _, _, _, rfl, rfl, repeats.agrees _ _ _ _ left right,
        repeats.stays _ _ _ left, repeats.stays _ _ _ right⟩

/-- In two states of a sandbox that repeats itself the tests of a point come to the same.
Witness: induction on the tests; results that agree have the same status, hence the tests
after them are skipped or run alike.
-/
theorem runTests_agrees (repeats : setup.sandbox.Repeats states shown)
    (tests : List ReachableTest) (isKilled : Bool) {first second : σ} (left : states first)
    (right : states second)
    : seen (MutationResult.view shown)
          (setup.runTests point isKilled tests { program, sandbox := first }).1.answer
        = seen (MutationResult.view shown)
            (setup.runTests point isKilled tests { program, sandbox := second }).1.answer
      ∧ states (setup.runTests point isKilled tests { program, sandbox := first }).2.sandbox
      := by
  induction tests generalizing isKilled first second with
  | nil => exact ⟨rfl, left⟩
  | cons reachable rest ih =>
      obtain ⟨answer, other, after, next, ran, ranToo, same, leftAfter, rightAfter⟩ :=
        nextResult_agrees program repeats isKilled reachable left right
      rcases answer_cases same with ⟨payload, rfl, rfl⟩ | ⟨result, result', rfl, rfl, agree⟩
      · rw [runTests_panic rest ran, runTests_panic rest ranToo]
        exact ⟨rfl, leftAfter⟩
      · obtain ⟨status, stderr⟩ := repeats.tells result result' agree
        by_cases invalid : result.status = .invalid
        · rw [runTests_invalid rest ran invalid,
            runTests_invalid rest ranToo (status ▸ invalid), stderr]
          exact ⟨rfl, leftAfter⟩
        · obtain ⟨others, kept⟩ :=
            ih (isKilled || !result.status.isPassed) leftAfter rightAfter
          have front : (listed point reachable result).view shown
              = (listed point reachable result').view shown := by
            simp only [listed, MutationResult.view, agree]
          rw [runTests_next rest ran invalid, runTests_next rest ranToo (status ▸ invalid)]
          refine ⟨?_, kept⟩
          simp only [ItemOutcome.answer_cons, seen_map_cons, front, ← status, others]

/-- Points are treated alike in all states in which the given program has no mutant in place.
-/
theorem runPoint_follows (repeats : setup.sandbox.Repeats states shown)
    (distinct : program.trampolines.Distinct) {host : σ} (known : states host)
    : FollowsItem (fun bench : Bench σ => bench.program = program ∧ states bench.sandbox)
        (MutationResult.view shown) setup.runPoint
        (fun point =>
          seen (MutationResult.view shown)
            (setup.runPoint point { program, sandbox := host }).1.answer) where
  answer point := by
    rintro ⟨program, sandbox⟩ ⟨rfl, valid⟩
    cases located : setup.locate program point with
    | error error => rw [runPoint_error located, runPoint_error located]
    | ok place =>
        rw [runPoint_ok distinct located, runPoint_ok distinct located]
        exact (runTests_agrees repeats point.reachableTests false valid known).1
  valid point := by
    rintro ⟨program, sandbox⟩ ⟨rfl, valid⟩
    cases located : setup.locate program point with
    | error error =>
        rw [runPoint_error located]
        exact ⟨rfl, valid⟩
    | ok place =>
        rw [runPoint_ok distinct located]
        exact ⟨rfl, (runTests_agrees repeats point.reachableTests false valid valid).2⟩

end MutantRuns

end MutationTesting
