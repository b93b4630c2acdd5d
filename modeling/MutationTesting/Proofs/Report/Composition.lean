import Mathlib.Data.List.Perm.Subperm
import Mathlib.Order.Lattice
import MutationTesting.Proofs.Report.Verdicts

/-! Verdicts compose. The verdict on a mutant from two lists of results is the higher one of its
verdicts from each of them, so that the order of results plays no part and more results never lower
a verdict.
-/

namespace MutationTesting

-----------------------------------------------------------------------------------------
-- The order of verdicts
-----------------------------------------------------------------------------------------

namespace MutantStatus

/-- How far the tests of a mutant have got: none of them decided, it survives, or it is killed. -/
def rank : MutantStatus → Nat
  | .notExecuted => 0
  | .survived => 1
  | .killed => 2

theorem rank_injective : Function.Injective rank := by
  intro left right same
  cases left <;> cases right <;> simp_all [rank]

/-- A mutant that no test decided ranks lowest and a killed one highest. -/
instance : SemilatticeSup MutantStatus where
  toPartialOrder := PartialOrder.lift rank rank_injective
  sup left right := if left.rank ≤ right.rank then right else left
  le_sup_left left right := by
    show left.rank ≤ (if left.rank ≤ right.rank then right else left).rank
    split <;> omega
  le_sup_right left right := by
    show right.rank ≤ (if left.rank ≤ right.rank then right else left).rank
    split <;> omega
  sup_le left right top below belowToo := by
    show (if left.rank ≤ right.rank then right else left).rank ≤ top.rank
    split
    · exact belowToo
    · exact below

theorem le_killed (status : MutantStatus) : status ≤ killed := by
  show status.rank ≤ killed.rank
  cases status <;> simp [rank]

end MutantStatus

/-- One test that kills decides, and failing that one that passes; either may be on either side. -/
theorem verdict_append (left right : List ExecutionStatus)
    : verdict (left ++ right) = max (verdict left) (verdict right) := by
  unfold verdict
  rw [List.any_append, List.any_append]
  cases left.any (·.kills) <;> cases right.any (·.kills) <;>
    cases left.any (·.isPassed) <;> cases right.any (·.isPassed) <;> rfl

/-- The order of statuses plays no part in a verdict. -/
theorem verdict_perm {left right : List ExecutionStatus} (perm : left.Perm right)
    : verdict left = verdict right := by
  unfold verdict
  rw [perm.any_eq, perm.any_eq]

-----------------------------------------------------------------------------------------
-- Verdicts by identity
-----------------------------------------------------------------------------------------

namespace Summary

/-- What a summary says about the mutant of an identity; nothing was decided about a mutant that it
does not have.
-/
def statusOf (summary : Summary) (id : String) : MutantStatus :=
  ((summary.mutants.find? (·.id == id)).map (·.status)).getD .notExecuted

/-- A mutant of a summary is judged by the statuses of the results with its identity. -/
theorem status_of_mem {results : List MutationResult} {mutant : MutantOutcome}
    (member : mutant ∈ (ofResults results).mutants)
    : mutant.status = verdict (statusesOf results mutant.id) := by
  unfold MutantOutcome.status statusesOf
  rw [tests_of_mem member, List.map_map]
  rfl

/-- Identities without results have no statuses. -/
theorem statusesOf_of_unlisted {results : List MutationResult} {id : String}
    (unlisted : id ∉ identities results)
    : statusesOf results id = [] := by
  rw [identities, List.mem_eraseDups] at unlisted
  unfold statusesOf
  rw [List.map_eq_nil_iff, List.filter_eq_nil_iff]
  intro result member same
  exact unlisted (List.mem_map.mpr ⟨result, member, beq_iff_eq.mp same⟩)

/-- What a summary says about an identity is the verdict of all its statuses, also when there are
none.
-/
theorem statusOf_ofResults (results : List MutationResult) (id : String)
    : (ofResults results).statusOf id = verdict (statusesOf results id) := by
  unfold statusOf
  cases found : (ofResults results).mutants.find? (·.id == id) with
  | none =>
      have unlisted : id ∉ identities results := by
        rw [← ids_ofResults]
        intro listed
        obtain ⟨mutant, member, own⟩ := List.mem_map.mp listed
        exact List.find?_eq_none.mp found mutant member (beq_iff_eq.mpr own)
      rw [statusesOf_of_unlisted unlisted]
      rfl
  | some mutant =>
      have own : mutant.id = id := by simpa using List.find?_some found
      rw [← own]
      exact status_of_mem (List.mem_of_find?_eq_some found)

/-- The mutants with a status are listed by their identities. -/
theorem ids_filter_status (results : List MutationResult) (status : MutantStatus)
    : ((ofResults results).mutants.filter (·.status == status)).map (·.id)
      = (identities results).filter fun id => (ofResults results).statusOf id == status := by
  rw [← ids_ofResults, List.filter_map]
  congr 1
  apply List.filter_congr
  intro mutant member
  rw [Function.comp_apply, statusOf_ofResults, status_of_mem member]

-----------------------------------------------------------------------------------------
-- More results
-----------------------------------------------------------------------------------------

theorem statusesOf_append (results others : List MutationResult) (id : String)
    : statusesOf (results ++ others) id = statusesOf results id ++ statusesOf others id := by
  simp [statusesOf]

/-- The higher one of two verdicts is the verdict of all results together. -/
theorem statusOf_append (results others : List MutationResult) (id : String)
    : (ofResults (results ++ others)).statusOf id
      = max ((ofResults results).statusOf id) ((ofResults others).statusOf id) := by
  simp only [statusOf_ofResults, statusesOf_append, verdict_append]

theorem statusesOf_perm {results others : List MutationResult} (perm : results.Perm others)
    (id : String)
    : (statusesOf results id).Perm (statusesOf others id) :=
  (perm.filter _).map _

theorem statusOf_perm {results others : List MutationResult} (perm : results.Perm others)
    (id : String)
    : (ofResults results).statusOf id = (ofResults others).statusOf id := by
  rw [statusOf_ofResults, statusOf_ofResults]
  exact verdict_perm (statusesOf_perm perm id)

/-- More results never lower a verdict, wherever they stand among the others. -/
theorem statusOf_le_of_subperm {results more : List MutationResult} (part : results.Subperm more)
    (id : String)
    : (ofResults results).statusOf id ≤ (ofResults more).statusOf id := by
  obtain ⟨same, reordered, sublist⟩ := part
  obtain ⟨others, together⟩ := sublist.exists_perm_append
  calc
    (ofResults results).statusOf id
    _ = (ofResults same).statusOf id := statusOf_perm reordered.symm id
    _ ≤ max ((ofResults same).statusOf id) ((ofResults others).statusOf id) := le_sup_left
    _ = (ofResults (same ++ others)).statusOf id := (statusOf_append same others id).symm
    _ = (ofResults more).statusOf id := statusOf_perm together.symm id

-----------------------------------------------------------------------------------------
-- Results in another order
-----------------------------------------------------------------------------------------

theorem identities_perm {results others : List MutationResult} (perm : results.Perm others)
    : (identities results).Perm (identities others) := by
  apply (List.perm_ext_iff_of_nodup (nodup_identities results) (nodup_identities others)).mpr
  intro id
  rw [identities, identities, List.mem_eraseDups, List.mem_eraseDups]
  exact (perm.map _).mem_iff

/-- The mutants with a status are the same for results in another order. -/
theorem ids_filter_status_perm {results others : List MutationResult} (perm : results.Perm others)
    (status : MutantStatus)
    : (((ofResults results).mutants.filter (·.status == status)).map (·.id)).Perm
        (((ofResults others).mutants.filter (·.status == status)).map (·.id)) := by
  rw [ids_filter_status, ids_filter_status]
  simp only [statusOf_perm perm]
  exact (identities_perm perm).filter _

/-- The summaries have the same mutants, with the same verdicts and the same tests, though they may
list them in different orders.
-/
structure Rearranged (left right : Summary) : Prop where
  ids : (left.mutants.map (·.id)).Perm (right.mutants.map (·.id))
  mutants
    : ∀ mutant ∈ left.mutants,
        ∃ other ∈ right.mutants,
          other.id = mutant.id
          ∧ other.status = mutant.status
          ∧ other.tests.Perm mutant.tests
  counts : ∀ status, left.count status = right.count status
  survivors : (left.survivors.map (·.id)).Perm (right.survivors.map (·.id))

theorem rearranged_of_perm {results others : List MutationResult} (perm : results.Perm others)
    : (ofResults results).Rearranged (ofResults others) where
  ids := by
    rw [ids_ofResults, ids_ofResults]
    exact identities_perm perm
  mutants mutant member := by
    have listed : mutant.id ∈ (ofResults others).mutants.map (·.id) := by
      rw [ids_ofResults]
      apply (identities_perm perm).mem_iff.mp
      rw [← ids_ofResults]
      exact List.mem_map_of_mem member
    obtain ⟨other, memberToo, own⟩ := List.mem_map.mp listed
    refine ⟨other, memberToo, own, ?_, ?_⟩
    · rw [status_of_mem member, status_of_mem memberToo, own]
      exact verdict_perm (statusesOf_perm perm.symm mutant.id)
    · rw [tests_of_mem member, tests_of_mem memberToo, own]
      exact (perm.symm.filter _).map _
  counts status := by
    have counted (summary : Summary)
        : summary.count status
          = ((summary.mutants.filter (·.status == status)).map (·.id)).length := by
      rw [List.length_map, count, List.countP_eq_length_filter]
    rw [counted, counted]
    exact (ids_filter_status_perm perm status).length_eq
  survivors := ids_filter_status_perm perm .survived

/-- Verdicts compose. Each mutant has the verdict on its identity, and nothing was decided about an
identity without results. The verdict from two lists of results is the higher one of the verdicts
from each. Another order of the results leaves every verdict, all counts and the survivors as they
are, and a mutant that was killed stays killed whatever results are added anywhere.
-/
theorem statusOf_composes (results others : List MutationResult)
    : (∀ mutant ∈ (ofResults results).mutants,
        mutant.status = (ofResults results).statusOf mutant.id)
      ∧ (∀ id,
          id ∉ results.map (·.point.uniqueId)
          → (ofResults results).statusOf id = .notExecuted)
      ∧ (MutantStatus.notExecuted < .survived ∧ MutantStatus.survived < .killed)
      ∧ (∀ id,
          (ofResults (results ++ others)).statusOf id
            = max ((ofResults results).statusOf id) ((ofResults others).statusOf id))
      ∧ (results.Perm others → (ofResults results).Rearranged (ofResults others))
      ∧ (results.Subperm others
          → ∀ id,
              (ofResults results).statusOf id ≤ (ofResults others).statusOf id
              ∧ ((ofResults results).statusOf id = .killed
                → (ofResults others).statusOf id = .killed)) := by
  refine ⟨?_, ?_, ⟨Nat.zero_lt_one, Nat.one_lt_two⟩, statusOf_append results others,
    rearranged_of_perm, ?_⟩
  · intro mutant member
    rw [statusOf_ofResults, status_of_mem member]
  · intro id absent
    have unlisted : id ∉ identities results := fun listed => absent (List.mem_eraseDups.mp listed)
    rw [statusOf_ofResults, statusesOf_of_unlisted unlisted]
    rfl
  · intro part id
    have raised := statusOf_le_of_subperm part id
    refine ⟨raised, ?_⟩
    intro killed
    rw [killed] at raised
    exact le_antisymm (MutantStatus.le_killed _) raised

/-- Results of two mutants that take turns, and the same results the other way round. The mutant
that one of its two tests kills is killed in both orders.
-/
theorem sample_statusOf_composes
    : let result (instruction : Nat) (test : String) (status : ExecutionStatus) : MutationResult :=
        {
          result := { status }
          point :=
            { module := "m", function := "f", address := ⟨0, 0, instruction⟩, mutator := .mathSub }
          test := { id := test, entry := "entry" }
          distance := 1
        }
      let results := [result 0 "a" .passed, result 1 "a" .passed, result 0 "b" .timedout]
      results.Perm results.reverse
      ∧ (ofResults results).Rearranged (ofResults results.reverse)
      ∧ "math_sub_mutator:m:0_0_2" ∉ results.map (·.point.uniqueId)
      ∧ (ofResults results).statusOf "math_sub_mutator:m:0_0_2" = .notExecuted
      ∧ (ofResults results).statusOf "math_sub_mutator:m:0_0_0" = .killed
      ∧ (ofResults results.reverse).statusOf "math_sub_mutator:m:0_0_0" = .killed
      ∧ ∃ mutant ∈ (ofResults results).mutants,
          mutant.id = "math_sub_mutator:m:0_0_1"
          ∧ mutant.status = (ofResults results).statusOf mutant.id := by
  intro result results
  have perm : results.Perm results.reverse := (List.reverse_perm results).symm
  obtain ⟨judged, undecided, -, -, reordered, kept⟩ := statusOf_composes results results.reverse
  have absent : "math_sub_mutator:m:0_0_2" ∉ results.map (·.point.uniqueId) := by decide +kernel
  have killed : (ofResults results).statusOf "math_sub_mutator:m:0_0_0" = .killed := by
    decide +kernel
  have listed : "math_sub_mutator:m:0_0_1" ∈ (ofResults results).mutants.map (·.id) := by
    decide +kernel
  obtain ⟨mutant, member, own⟩ := List.mem_map.mp listed
  exact ⟨perm, reordered perm, absent, undecided _ absent, killed,
    (kept perm.subperm _).2 killed, mutant, member, own, judged mutant member⟩

end Summary

end MutationTesting
