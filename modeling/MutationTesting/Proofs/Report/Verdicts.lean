import MutationTesting.Proofs.Report.Grouping

/-! When two lists of results lead to the same verdicts. The results are about the same tests of
the same points, and the statuses of every mutant either kill it in both lists or are the same.
-/

namespace MutationTesting

-----------------------------------------------------------------------------------------
-- Statuses that lead to the same verdict
-----------------------------------------------------------------------------------------

/-- The statuses on both sides kill a mutant, or they are the same. -/
structure AgreeOnKills (left right : List ExecutionStatus) : Prop where
  kills : left.any (·.kills) = right.any (·.kills)
  spared : left.any (·.kills) = false → left = right

theorem AgreeOnKills.refl (statuses : List ExecutionStatus) : AgreeOnKills statuses statuses :=
  ⟨rfl, fun _ => rfl⟩

theorem AgreeOnKills.append {left right more others : List ExecutionStatus}
    (front : AgreeOnKills left right) (back : AgreeOnKills more others)
    : AgreeOnKills (left ++ more) (right ++ others) := by
  refine ⟨?_, fun spared => ?_⟩
  · rw [List.any_append, List.any_append, front.kills, back.kills]
  · rw [List.any_append, Bool.or_eq_false_iff] at spared
    rw [front.spared spared.1, back.spared spared.2]

theorem AgreeOnKills.verdict {left right : List ExecutionStatus}
    (agree : AgreeOnKills left right)
    : MutationTesting.verdict left = MutationTesting.verdict right := by
  unfold MutationTesting.verdict
  cases killed : left.any (·.kills) with
  | true => simp [← agree.kills, killed]
  | false => simp [← agree.spared killed, killed]

-----------------------------------------------------------------------------------------
-- Summaries with the same verdicts
-----------------------------------------------------------------------------------------

/-- What a result is about: a test of a point, in which the outcome does not occur. -/
def MutationResult.pair (result : MutationResult) : MutationPoint × ReachableTest :=
  (result.point, { test := result.test, distance := result.distance })

/-- A test of a mutant without what became of it. -/
def TestOutcome.unjudged (outcome : TestOutcome) : TestOutcome :=
  { outcome with status := .invalid, millis := 0 }

/-- A mutant with what became of it, but not of its tests. -/
def MutantOutcome.judged (mutant : MutantOutcome) : MutantOutcome × MutantStatus :=
  ({ mutant with tests := mutant.tests.map (·.unjudged) }, mutant.status)

/-- The summaries have the same mutants in the same order, and the same became of each. -/
structure Summary.SameVerdicts (left right : Summary) : Prop where
  mutants : left.mutants.map (·.judged) = right.mutants.map (·.judged)
  total : left.total = right.total
  counts : ∀ status, left.count status = right.count status
  score : left.score = right.score
  survivors : left.survivors.map (·.judged) = right.survivors.map (·.judged)

/-- The rest follows from the verdicts on the mutants. -/
theorem Summary.SameVerdicts.of_mutants {left right : Summary}
    (same : left.mutants.map (·.judged) = right.mutants.map (·.judged))
    : left.SameVerdicts right := by
  have counted (summary : Summary) (status : MutantStatus)
      : summary.count status = (summary.mutants.map (·.judged)).countP (·.2 == status) := by
    rw [List.countP_map]
    rfl
  have counts (status : MutantStatus) : left.count status = right.count status := by
    rw [counted, counted, same]
  have surviving (summary : Summary)
      : summary.survivors.map (·.judged)
        = (summary.mutants.map (·.judged)).filter (·.2 == .survived) := by
    rw [List.filter_map]
    rfl
  refine {
    mutants := same
    total := ?_
    counts := counts
    score := ?_
    survivors := ?_
  }
  · simpa [Summary.total] using congrArg List.length same
  · simp only [Summary.score, counts]
  · rw [surviving, surviving, same]

/-- The statuses of the results with an identity, in order. -/
def statusesOf (results : List MutationResult) (id : String) : List ExecutionStatus :=
  (results.filter (·.point.uniqueId == id)).map (·.result.status)

/-- What is known about a mutant consists of what its results are about and of their statuses. -/
theorem MutantOutcome.gathered?_judged (results : List MutationResult) (id : String)
    : (gathered? results id).map (·.judged)
      = ((results.map (·.pair)).find? (·.1.uniqueId == id)).map fun first =>
          ({
            id := first.1.uniqueId
            module := first.1.module
            function := first.1.function
            mutator := first.1.mutator
            location := first.1.location
            tests :=
              ((results.map (·.pair)).filter (·.1.uniqueId == id)).map fun pair =>
                {
                  test := pair.2.test.id
                  distance := pair.2.distance
                  status := .invalid
                  millis := 0
                }
          }, MutationTesting.verdict (statusesOf results id)) := by
  unfold gathered?
  rw [List.find?_map, List.filter_map]
  cases found : results.find? (·.point.uniqueId == id) with
  | none =>
      have absent
          : results.find? ((·.1.uniqueId == id) ∘ (·.pair)) = none :=
        found
      rw [absent]
      rfl
  | some first =>
      have there
          : results.find? ((·.1.uniqueId == id) ∘ (·.pair)) = some first :=
        found
      simp only [there, Option.map_some, judged, status, statusesOf, List.map_map]
      rfl

/-- Results about the same tests whose statuses agree for every mutant are summarised alike. -/
theorem Summary.ofResults_sameVerdicts {left right : List MutationResult}
    (pairs : left.map (·.pair) = right.map (·.pair))
    (agree : ∀ id, AgreeOnKills (statusesOf left id) (statusesOf right id))
    : (Summary.ofResults left).SameVerdicts (Summary.ofResults right) := by
  have identified (results : List MutationResult)
      : Summary.identities results = ((results.map (·.pair)).map (·.1.uniqueId)).eraseDups := by
    rw [List.map_map]
    rfl
  apply Summary.SameVerdicts.of_mutants
  apply (List.map_inj_right fun _ _ => Option.some.inj).mp
  rw [List.map_map, List.map_map]
  have gathered (results : List MutationResult)
      : (Summary.ofResults results).mutants.map (some ∘ (·.judged))
        = (Summary.identities results).map fun id =>
            (MutantOutcome.gathered? results id).map (·.judged) := by
    have listed := congrArg (List.map (Option.map MutantOutcome.judged))
      (Summary.mutants_ofResults results)
    simpa [List.map_map, Function.comp_def] using listed
  rw [gathered, gathered, identified, identified, pairs]
  apply List.map_congr_left
  intro id _
  rw [MutantOutcome.gathered?_judged, MutantOutcome.gathered?_judged, pairs, (agree id).verdict]

end MutationTesting
