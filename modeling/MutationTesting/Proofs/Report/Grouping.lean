import Mathlib.Data.List.Induction
import MutationTesting.Proofs.Lists.FirstAppearances
import MutationTesting.Report.Summary

/-! A summary has one mutant for every identity among its results, in the order of first
appearance. A mutant has the results with its identity in their order, and is described by the
first of them.
-/

namespace MutationTesting

namespace MutantOutcome

/-- What is known about the mutant of an identity from some results. -/
def gathered? (results : List MutationResult) (id : String) : Option MutantOutcome :=
  (results.find? (·.point.uniqueId == id)).map fun first =>
    {
      ofResult first with
      tests := (results.filter (·.point.uniqueId == id)).map .ofResult
    }

theorem gathered?_isSome {results : List MutationResult} {id : String}
    : (gathered? results id).isSome ↔ id ∈ results.map (·.point.uniqueId) := by
  simp [gathered?]

-----------------------------------------------------------------------------------------
-- Filing one more result
-----------------------------------------------------------------------------------------

/-- A result of a mutant that is not listed opens a new mutant at the end. -/
theorem file_of_not_mem {result : MutationResult} {mutants : List MutantOutcome}
    (absent : result.point.uniqueId ∉ mutants.map (·.id))
    : file result mutants = mutants ++ [ofResult result] := by
  induction mutants with
  | nil => rfl
  | cons mutant rest ih =>
      simp only [List.map_cons, List.mem_cons, not_or] at absent
      simp [file, Ne.symm absent.1, ih absent.2]

/-- A result of a listed mutant goes to the end of that mutant's results and nowhere else. -/
theorem file_of_mem {result : MutationResult} {mutants : List MutantOutcome}
    (distinct : (mutants.map (·.id)).Nodup)
    (member : result.point.uniqueId ∈ mutants.map (·.id))
    : file result mutants
      = mutants.map fun mutant =>
          if mutant.id = result.point.uniqueId then
            { mutant with tests := mutant.tests ++ [.ofResult result] }
          else
            mutant := by
  induction mutants with
  | nil => simp at member
  | cons mutant rest ih =>
      obtain ⟨fresh, others⟩ := List.nodup_cons.mp distinct
      by_cases same : mutant.id = result.point.uniqueId
      · have untouched : ∀ other ∈ rest, other.id ≠ result.point.uniqueId := by
          intro other there equal
          exact fresh (List.mem_map.mpr ⟨other, there, equal.trans same.symm⟩)
        have kept : rest.map (fun other =>
            if other.id = result.point.uniqueId then
              { other with tests := other.tests ++ [.ofResult result] }
            else
              other) = rest :=
          (List.map_congr_left fun other there => if_neg (untouched other there)).trans
            (List.map_id' rest)
        simp [file, same, kept]
      · have later : result.point.uniqueId ∈ rest.map (·.id) := by
          rcases List.mem_cons.mp member with first | later
          · exact absurd first.symm same
          · exact later
        simp [file, same, ih others later]

/-- One more result changes what is known about its own mutant: its results grow, or it becomes
known.
-/
theorem gathered?_append_self (results : List MutationResult) (result : MutationResult)
    : gathered? (results ++ [result]) result.point.uniqueId
      = match gathered? results result.point.uniqueId with
        | some mutant => some { mutant with tests := mutant.tests ++ [.ofResult result] }
        | none => some (ofResult result) := by
  unfold gathered?
  cases found : results.find? (·.point.uniqueId == result.point.uniqueId) with
  | some first => simp [List.find?_append, found, List.filter_append]
  | none =>
      have absent : results.filter (·.point.uniqueId == result.point.uniqueId) = [] := by
        rw [List.filter_eq_nil_iff]
        exact List.find?_eq_none.mp found
      simp [List.find?_append, found, List.filter_append, absent, ofResult]

theorem gathered?_append_of_ne {result : MutationResult} {id : String}
    (different : id ≠ result.point.uniqueId) (results : List MutationResult)
    : gathered? (results ++ [result]) id = gathered? results id := by
  have other : (result.point.uniqueId == id) = false := by simpa using Ne.symm different
  simp [gathered?, List.find?_append, List.filter_append, other]

end MutantOutcome

-----------------------------------------------------------------------------------------
-- All results
-----------------------------------------------------------------------------------------

namespace Summary

open MutantOutcome

/-- The identities among results, in the order of first appearance. -/
def identities (results : List MutationResult) : List String :=
  (results.map (·.point.uniqueId)).eraseDups

theorem mem_identities {results : List MutationResult} {id : String}
    : id ∈ identities results ↔ (gathered? results id).isSome := by
  rw [gathered?_isSome, identities, List.mem_eraseDups]

theorem identities_append (results : List MutationResult) (result : MutationResult)
    : identities (results ++ [result])
      = if result.point.uniqueId ∈ identities results then
          identities results
        else
          identities results ++ [result.point.uniqueId] := by
  simp only [identities, List.map_append, List.map_singleton, eraseDups_concat,
    List.mem_eraseDups]

theorem ofResults_append (results : List MutationResult) (result : MutationResult)
    : (Summary.ofResults (results ++ [result])).mutants
      = MutantOutcome.file result (Summary.ofResults results).mutants := by
  simp [ofResults]

theorem nodup_identities (results : List MutationResult) : (identities results).Nodup :=
  nodup_eraseDups _

/-- The identities of the mutants of a summary are those of the results, each once. -/
theorem ids_ofResults (results : List MutationResult)
    : (Summary.ofResults results).mutants.map (·.id) = identities results := by
  induction results using List.reverseRecOn with
  | nil => rfl
  | append_singleton results result ih =>
      have distinct := nodup_identities results
      rw [ofResults_append, identities_append]
      by_cases member : result.point.uniqueId ∈ identities results
      · rw [if_pos member, file_of_mem (ih ▸ distinct) (ih ▸ member), ← ih, List.map_map]
        apply List.map_congr_left
        intro mutant _
        by_cases same : mutant.id = result.point.uniqueId <;> simp [same]
      · rw [if_neg member, file_of_not_mem (ih ▸ member)]
        simp [ih, ofResult]

/-- Everything that is known about a mutant of a summary is in it.
Witness: induction on the results from the last one, which extends a known mutant or adds one.
-/
theorem gathered?_of_mem (results : List MutationResult)
    : ∀ mutant ∈ (Summary.ofResults results).mutants,
        gathered? results mutant.id = some mutant := by
  induction results using List.reverseRecOn with
  | nil => simp [ofResults]
  | append_singleton results result ih =>
      have ids := ids_ofResults results
      have distinct := nodup_identities results
      intro mutant there
      rw [ofResults_append] at there
      by_cases member : result.point.uniqueId ∈ identities results
      · rw [file_of_mem (ids ▸ distinct) (ids ▸ member)] at there
        obtain ⟨before, listed, rfl⟩ := List.mem_map.mp there
        have known := ih before listed
        by_cases same : before.id = result.point.uniqueId
        · rw [if_pos same]
          rw [same] at known
          simp only [same, gathered?_append_self, known]
        · rw [if_neg same, gathered?_append_of_ne same, known]
      · have new : gathered? results result.point.uniqueId = none := by
          simpa [mem_identities] using member
        rw [file_of_not_mem (ids ▸ member)] at there
        rcases List.mem_append.mp there with listed | last
        · have different : mutant.id ≠ result.point.uniqueId := by
            intro same
            exact member (ids ▸ same ▸ List.mem_map_of_mem listed)
          rw [gathered?_append_of_ne different, ih mutant listed]
        · obtain rfl := List.mem_singleton.mp last
          simp only [ofResult, gathered?_append_self, new]

/-- A mutant of a summary is described by the first result with its identity. -/
theorem described_of_mem {results : List MutationResult} {mutant : MutantOutcome}
    (member : mutant ∈ (Summary.ofResults results).mutants)
    : ∃ first,
        results.find? (·.point.uniqueId == mutant.id) = some first
        ∧ mutant = { ofResult first with tests := mutant.tests } := by
  obtain ⟨first, found, known⟩ := Option.map_eq_some_iff.mp (gathered?_of_mem results mutant member)
  refine ⟨first, found, ?_⟩
  rw [← known]

/-- A mutant of a summary has all results with its identity, and no others. -/
theorem tests_of_mem {results : List MutationResult} {mutant : MutantOutcome}
    (member : mutant ∈ (Summary.ofResults results).mutants)
    : mutant.tests = (results.filter (·.point.uniqueId == mutant.id)).map .ofResult := by
  obtain ⟨first, -, known⟩ := Option.map_eq_some_iff.mp (gathered?_of_mem results mutant member)
  exact (congrArg (·.tests) known).symm

/-- A summary lists what is known about each identity, in order. -/
theorem mutants_ofResults (results : List MutationResult)
    : (Summary.ofResults results).mutants.map some
      = (identities results).map (gathered? results) := by
  rw [← ids_ofResults results, List.map_map]
  apply List.map_congr_left
  intro mutant there
  exact (gathered?_of_mem results mutant there).symm

end Summary

end MutationTesting
