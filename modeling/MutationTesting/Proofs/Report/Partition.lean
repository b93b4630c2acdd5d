import Mathlib.Algebra.GroupWithZero.Nat
import MutationTesting.Proofs.Report.Grouping

/-! A summary is a partition of the results. It may be made in one pass with an index of the places
where mutants are listed: every result goes to the mutant of its identity and to no other, so that
none is lost or counted twice, however the results of different mutants are mixed.
-/

namespace MutationTesting

-----------------------------------------------------------------------------------------
-- Filing results
-----------------------------------------------------------------------------------------

namespace MutantOutcome

/-- The same mutant with one more result. -/
def withResult (mutant : MutantOutcome) (result : MutationResult) : MutantOutcome :=
  { mutant with tests := mutant.tests ++ [.ofResult result] }

/-- A result is filed at the place of its identity, or behind all mutants if there is none. -/
theorem file_eq_place (result : MutationResult) (mutants : List MutantOutcome)
    : file result mutants
      = match mutants.findIdx? (·.id == result.point.uniqueId) with
        | some place => mutants.modify place (·.withResult result)
        | none => mutants ++ [ofResult result] := by
  induction mutants with
  | nil => rfl
  | cons mutant rest ih =>
      by_cases own : mutant.id = result.point.uniqueId
      · simp [file, List.findIdx?_cons, own, withResult]
      · rw [file, if_neg own, ih, List.findIdx?_cons, beq_eq_false_iff_ne.mpr own]
        cases rest.findIdx? (·.id == result.point.uniqueId) <;> simp

/-- Filing a result adds it to the results of all mutants together. -/
theorem tests_file (result : MutationResult) (mutants : List MutantOutcome)
    : ((file result mutants).flatMap (·.tests)).Perm
        (.ofResult result :: mutants.flatMap (·.tests)) := by
  induction mutants with
  | nil => exact .rfl
  | cons mutant rest ih =>
      rw [file, List.flatMap_cons]
      split
      · rw [List.flatMap_cons, List.append_assoc]
        exact List.perm_middle
      · rw [List.flatMap_cons]
        exact (ih.append_left _).trans List.perm_middle

end MutantOutcome

-----------------------------------------------------------------------------------------
-- Mutants with an index
-----------------------------------------------------------------------------------------

/-- Mutants, and the places of their identities. -/
structure IndexedMutants where
  mutants : List MutantOutcome := []
  index : List (String × Nat) := []

namespace IndexedMutants

/-- Files a result at the place that the index has for its identity, or else behind all mutants,
where the index then finds it.
-/
def file (indexed : IndexedMutants) (result : MutationResult) : IndexedMutants :=
  match indexed.index.lookup result.point.uniqueId with
  | some place =>
      { indexed with mutants := indexed.mutants.modify place (·.withResult result) }
  | none =>
      {
        mutants := indexed.mutants ++ [.ofResult result]
        index := (result.point.uniqueId, indexed.mutants.length) :: indexed.index
      }

/-- The index has the places of the mutants. -/
structure InStep (indexed : IndexedMutants) (mutants : List MutantOutcome) : Prop where
  listed : indexed.mutants = mutants
  places : ∀ id, indexed.index.lookup id = mutants.findIdx? (·.id == id)

theorem findIdx?_modify {mutants : List MutantOutcome} (place : Nat) (result : MutationResult)
    (id : String)
    : (mutants.modify place (·.withResult result)).findIdx? (·.id == id)
      = mutants.findIdx? (·.id == id) := by
  have byId (mutants : List MutantOutcome)
      : mutants.findIdx? (·.id == id) = (mutants.map (·.id)).findIdx? (· == id) := by
    rw [List.findIdx?_map]
    rfl
  rw [byId, byId]
  congr 1
  refine List.ext_getElem? fun other => ?_
  rw [List.getElem?_map, List.getElem?_map, List.getElem?_modify]
  cases mutants[other]? with
  | none => rfl
  | some mutant => by_cases here : place = other <;> simp [here, MutantOutcome.withResult]

/-- Filing a result keeps the index in step: mutants stay where they are, and a new one is last. -/
theorem InStep.file {indexed : IndexedMutants} {mutants : List MutantOutcome}
    (inStep : indexed.InStep mutants) (result : MutationResult)
    : (indexed.file result).InStep (MutantOutcome.file result mutants) := by
  obtain ⟨rfl, places⟩ := inStep
  unfold IndexedMutants.file
  rw [MutantOutcome.file_eq_place, ← places]
  cases known : indexed.index.lookup result.point.uniqueId with
  | some place => exact ⟨rfl, fun id => by rw [findIdx?_modify, ← places]⟩
  | none =>
      refine ⟨rfl, fun id => ?_⟩
      rw [List.lookup_cons, List.findIdx?_append, ← places]
      by_cases own : id = result.point.uniqueId
      · simp [own, known, MutantOutcome.ofResult]
      · simp [Ne.symm own, beq_eq_false_iff_ne.mpr own, MutantOutcome.ofResult]

/-- One pass over the results with an index lists the mutants of the summary. -/
theorem mutants_foldl (results : List MutationResult)
    : (results.foldl file {}).mutants = (Summary.ofResults results).mutants := by
  unfold Summary.ofResults
  suffices kept : ∀ indexed mutants, InStep indexed mutants
      → (results.foldl file indexed).InStep
          (results.foldl (fun mutants result => MutantOutcome.file result mutants) mutants)
      from (kept {} [] ⟨rfl, fun _ => rfl⟩).listed
  induction results with
  | nil => exact fun _ _ inStep => inStep
  | cons result rest ih => exact fun _ _ inStep => ih _ _ (inStep.file result)

end IndexedMutants

-----------------------------------------------------------------------------------------
-- Summaries
-----------------------------------------------------------------------------------------

/-- A running time in whole milliseconds, part by part. -/
theorem Duration.toMillis_eq (time : Duration)
    : time.toMillis = min (time.secs * 1000 + time.nanos / 1000000) (UInt64.size - 1) := by
  unfold Duration.toMillis Duration.toNanos nanosPerSecond
  congr 1
  omega

namespace Summary

/-- All mutants together have the results that were summarised, each once. -/
theorem tests_perm (results : List MutationResult)
    : ((Summary.ofResults results).mutants.flatMap (·.tests)).Perm (results.map .ofResult) := by
  induction results using List.reverseRecOn with
  | nil => exact .rfl
  | append_singleton results result ih =>
      rw [ofResults_append, List.map_append, List.map_singleton]
      have filed := MutantOutcome.tests_file result (ofResults results).mutants
      exact (filed.trans (ih.cons _)).trans (List.perm_append_singleton _ _).symm

/-- Every mutant has one of the three statuses. -/
theorem total_eq_counts (summary : Summary)
    : summary.total
      = summary.count .killed + summary.count .survived + summary.count .notExecuted := by
  unfold total count
  induction summary.mutants with
  | nil => rfl
  | cons mutant rest ih =>
      rw [List.length_cons, ih]
      cases status : mutant.status <;> simp [status] <;> omega

/-- What a summary consists of. One pass with an index makes it, however results are mixed: the
mutants are the identities in the order in which they first appear; each has all results with its
identity, in their order, and is described by the first of them. So the mutants share out the
results among them, each once, and the three counts share out the mutants by their statuses.
-/
theorem ofResults_partition (results : List MutationResult)
    : let summary := Summary.ofResults results
      (results.foldl IndexedMutants.file {}).mutants = summary.mutants
      ∧ summary.mutants.map (·.id) = (results.map (·.point.uniqueId)).eraseDups
      ∧ (∀ mutant ∈ summary.mutants,
          mutant.tests
            = (results.filter (·.point.uniqueId == mutant.id)).map (fun result =>
                {
                  test := result.test.id
                  distance := result.distance
                  status := result.result.status
                  millis :=
                    min
                      (result.result.runningTime.secs * 1000
                        + result.result.runningTime.nanos / 1000000)
                      (UInt64.size - 1)
                })
          ∧ ∃ first,
              results.find? (·.point.uniqueId == mutant.id) = some first
              ∧ mutant.module = first.point.module
              ∧ mutant.function = first.point.function
              ∧ mutant.mutator = first.point.mutator
              ∧ mutant.location = first.point.location)
      ∧ (summary.mutants.flatMap (·.tests)).Perm (results.map .ofResult)
      ∧ (summary.mutants.map (·.tests.length)).sum = results.length
      ∧ summary.total = summary.mutants.length
      ∧ summary.total
        = summary.count .killed + summary.count .survived + summary.count .notExecuted
      ∧ ∀ status, summary.count status = (summary.mutants.filter (·.status == status)).length := by
  intro summary
  have shared : (summary.mutants.flatMap (·.tests)).Perm (results.map .ofResult) :=
    tests_perm results
  refine ⟨IndexedMutants.mutants_foldl results, ids_ofResults results, fun mutant member => ?_,
    shared, ?_, rfl, summary.total_eq_counts, fun status => List.countP_eq_length_filter⟩
  · obtain ⟨first, found, described⟩ := described_of_mem member
    refine ⟨?_, first, found, ?_⟩
    · rw [tests_of_mem member]
      refine List.map_congr_left fun result _ => ?_
      rw [TestOutcome.ofResult, Duration.toMillis_eq]
    · rw [described]
      exact ⟨rfl, rfl, rfl, rfl⟩
  · rw [← List.length_flatMap, shared.length_eq, List.length_map]

/-- Two mutants take turns in the results. The first one is listed with both of its tests, though
the result of the other one stands between them.
-/
theorem sample_ofResults_partition
    : let result (instruction : Nat) (test : String) (status : ExecutionStatus) : MutationResult :=
        {
          result := { status, runningTime := .ofMillis 4 }
          point :=
            { module := "m", function := "f", address := ⟨0, 0, instruction⟩, mutator := .mathSub }
          test := { id := test, entry := "entry" }
          distance := 1
        }
      let summary :=
        Summary.ofResults [result 0 "a" .passed, result 1 "a" .passed, result 0 "b" .timedout]
      summary.mutants.map (·.id) = ["math_sub_mutator:m:0_0_0", "math_sub_mutator:m:0_0_1"]
      ∧ ∃ mutant ∈ summary.mutants,
          mutant.id = "math_sub_mutator:m:0_0_0"
          ∧ mutant.tests = [⟨"a", 1, .passed, 4⟩, ⟨"b", 1, .timedout, 4⟩]
          ∧ (summary.mutants.map (·.tests.length)).sum = 3 := by
  intro result summary
  obtain ⟨-, ids, described, -, shared, -⟩ := ofResults_partition
    [result 0 "a" .passed, result 1 "a" .passed, result 0 "b" .timedout]
  have listed : summary.mutants.map (·.id)
      = ["math_sub_mutator:m:0_0_0", "math_sub_mutator:m:0_0_1"] :=
    ids.trans (by decide)
  obtain ⟨mutant, member, own⟩ := List.mem_map.mp (listed ▸ List.mem_cons_self)
  obtain ⟨tests, -⟩ := described mutant member
  exact ⟨listed, mutant, member, own, tests.trans (by rw [own]; decide +kernel), shared⟩

end Summary

end MutationTesting
