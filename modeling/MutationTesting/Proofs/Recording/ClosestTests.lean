import Mathlib.Data.List.Induction
import Mathlib.Data.List.Nodup
import Mathlib.Data.List.Rotate
import MutationTesting.Proofs.Lists.FirstAppearances
import MutationTesting.Recording.Testee

/-! The tests that reach a function are those of its testees, each once and in the order of first
appearance. A test is listed as it first appears, at the smallest distance of all its appearances,
so that only the order of the list depends on the order of the testees.
-/

namespace MutationTesting

-----------------------------------------------------------------------------------------
-- One more appearance
-----------------------------------------------------------------------------------------

namespace ReachableTest

/-- The entry of a test among those that are listed. -/
def listed? (listed : List ReachableTest) (id : String) : Option ReachableTest :=
  listed.find? (·.test.id == id)

/-- The distance that is listed for a test. -/
def distanceOf (listed : List ReachableTest) (id : String) : Option Nat :=
  (listed? listed id).map (·.distance)

/-- The name and the distance of a test, without the test itself. -/
def idDistance (reachable : ReachableTest) : String × Nat :=
  (reachable.test.id, reachable.distance)

/-- If no two entries have the same name, then each entry is the one that is found by its name. -/
theorem listed?_of_mem {listed : List ReachableTest} (distinct : (listed.map (·.test.id)).Nodup)
    {reachable : ReachableTest} (member : reachable ∈ listed)
    : listed? listed reachable.test.id = some reachable := by
  cases found : listed? listed reachable.test.id with
  | none => simpa using List.find?_eq_none.mp found reachable member
  | some entry =>
      have same : entry.test.id = reachable.test.id := by simpa using List.find?_some found
      exact congrArg some
        (List.inj_on_of_nodup_map distinct (List.mem_of_find?_eq_some found) member same)

theorem mem_idDistances {listed : List ReachableTest}
    (distinct : (listed.map (·.test.id)).Nodup) (id : String) (distance : Nat)
    : (id, distance) ∈ listed.map idDistance ↔ distanceOf listed id = some distance := by
  constructor
  · intro member
    obtain ⟨reachable, inside, same⟩ := List.mem_map.mp member
    obtain ⟨rfl, rfl⟩ := Prod.mk.inj same
    rw [distanceOf, listed?_of_mem distinct inside]
    rfl
  · intro listedAt
    obtain ⟨entry, found, rfl⟩ := Option.map_eq_some_iff.mp listedAt
    have same : entry.test.id = id := by simpa using List.find?_some found
    exact same ▸ List.mem_map_of_mem (List.mem_of_find?_eq_some found)

/-- A test that appears is listed from then on, at the end if it was not listed before. -/
theorem ids_insert (listed : List ReachableTest) (test : UnitTest) (distance : Nat)
    : (insert listed test distance).map (·.test.id)
      = if test.id ∈ listed.map (·.test.id) then
          listed.map (·.test.id)
        else
          listed.map (·.test.id) ++ [test.id] := by
  induction listed with
  | nil => rfl
  | cons first rest ih =>
      by_cases same : first.test.id = test.id
      · simp [insert, same]
      · have other : ¬ test.id = first.test.id := Ne.symm same
        rw [insert, if_neg same, List.map_cons, ih]
        by_cases later : test.id ∈ rest.map (·.test.id) <;> simp [other, later]

/-- A test that appears keeps its entry and gets the smaller distance, or it gets an entry. -/
theorem listed?_insert_self (listed : List ReachableTest) (test : UnitTest) (distance : Nat)
    : listed? (insert listed test distance) test.id
      = match listed? listed test.id with
        | some entry => some { entry with distance := min entry.distance distance }
        | none => some { test, distance } := by
  induction listed with
  | nil => simp [insert, listed?]
  | cons first rest ih =>
      by_cases same : first.test.id = test.id
      · simp [insert, listed?, same]
      · simpa [insert, listed?, same] using ih

theorem listed?_insert_of_ne {test : UnitTest} {id : String} (different : test.id ≠ id)
    (listed : List ReachableTest) (distance : Nat)
    : listed? (insert listed test distance) id = listed? listed id := by
  induction listed with
  | nil => simp [insert, listed?, different]
  | cons first rest ih =>
      by_cases same : first.test.id = test.id
      · simp [insert, listed?, same, different]
      · rw [insert, if_neg same]
        by_cases own : first.test.id = id
        · simp [listed?, own]
        · simpa [listed?, own] using ih

end ReachableTest

-----------------------------------------------------------------------------------------
-- All appearances
-----------------------------------------------------------------------------------------

/-- The smallest number of two lists is the smaller one of their smallest numbers. The induction is
on the first list, since the smallest number is found from its start.
-/
theorem min?_append (first second : List Nat)
    : (first ++ second).min? = first.min?.merge min second.min? := by
  induction first with
  | nil => simp
  | cons number rest ih =>
      rw [List.cons_append, List.min?_cons, List.min?_cons, ih]
      cases rest.min? <;> cases second.min? <;> simp [Nat.min_assoc]

theorem min?_of_perm {first second : List Nat} (sameNumbers : first.Perm second)
    : first.min? = second.min? := by
  refine Option.ext fun number => ?_
  simp only [List.min?_eq_some_iff, sameNumbers.mem_iff]

/-- The testees with the given function and a test of the given name. -/
def appearances (function : String) (testees : List Testee) (id : String) : List Testee :=
  testees.filter fun testee => testee.function == function && testee.test.id == id

/-- What is listed for a test that appears: the test of the first appearance and the smallest of all
distances.
-/
structure ReachableTest.ClosestOf (appearances : List Testee) (reachable : ReachableTest)
    : Prop where
  test : appearances.head?.map (·.test) = some reachable.test
  distance : (appearances.map (·.distance)).min? = some reachable.distance

open ReachableTest

theorem appearances_concat_self (function : String) (testees : List Testee) (testee : Testee)
    (own : testee.function = function)
    : appearances function (testees ++ [testee]) testee.test.id
      = appearances function testees testee.test.id ++ [testee] := by
  simp [appearances, own]

theorem appearances_concat_of_ne {function id : String} {testee : Testee}
    (other : testee.function ≠ function ∨ testee.test.id ≠ id) (testees : List Testee)
    : appearances function (testees ++ [testee]) id = appearances function testees id := by
  rcases other with other | other <;> simp [appearances, other]

theorem reachableTests_concat (function : String) (testees : List Testee) (testee : Testee)
    : reachableTests function (testees ++ [testee])
      = if testee.function = function then
          insert (reachableTests function testees) testee.test testee.distance
        else
          reachableTests function testees := by
  unfold reachableTests
  by_cases own : testee.function = function <;> simp [own, List.foldl_append]

/-- The tests are listed in the order of their first appearances, by induction on the testees from
the last one.
-/
theorem ids_reachableTests (function : String) (testees : List Testee)
    : (reachableTests function testees).map (·.test.id)
      = ((testees.filter (·.function == function)).map (·.test.id)).eraseDups := by
  induction testees using List.reverseRecOn with
  | nil => rfl
  | append_singleton testees testee ih =>
      rw [reachableTests_concat]
      by_cases own : testee.function = function
      · have last : (testees ++ [testee]).filter (·.function == function)
            = testees.filter (·.function == function) ++ [testee] := by
          simp [own]
        rw [if_pos own, ids_insert, ih, last, List.map_append, List.map_singleton,
          eraseDups_concat]
        simp only [List.mem_eraseDups]
      · have without : (testees ++ [testee]).filter (·.function == function)
            = testees.filter (·.function == function) := by
          simp [own]
        rw [if_neg own, without, ih]

/-- What is listed for a test is said by its appearances, by induction on the testees from the last
one.
-/
theorem listed?_reachableTests (function : String) (testees : List Testee) (id : String)
    : (listed? (reachableTests function testees) id).map (·.test)
        = (appearances function testees id).head?.map (·.test)
      ∧ distanceOf (reachableTests function testees) id
        = ((appearances function testees id).map (·.distance)).min? := by
  unfold distanceOf
  induction testees using List.reverseRecOn with
  | nil => exact ⟨rfl, rfl⟩
  | append_singleton testees testee ih =>
      rw [reachableTests_concat]
      by_cases own : testee.function = function
      · rw [if_pos own]
        by_cases same : testee.test.id = id
        · subst same
          obtain ⟨first, least⟩ := ih
          rw [listed?_insert_self, appearances_concat_self function testees testee own,
            List.head?_append, List.map_append, List.map_singleton, min?_append, ← least]
          -- The entry that is there was made by an earlier appearance, which stays the first one.
          cases before : listed? (reachableTests function testees) testee.test.id with
          | none =>
              rw [before] at first
              rw [Option.map_eq_none_iff.mp first.symm]
              exact ⟨rfl, rfl⟩
          | some entry =>
              rw [before] at first
              obtain ⟨earliest, starts, kept⟩ := Option.map_eq_some_iff.mp first.symm
              rw [starts]
              exact ⟨congrArg some kept.symm, rfl⟩
        · rw [listed?_insert_of_ne same, appearances_concat_of_ne (.inr same)]
          exact ih
      · rw [if_neg own, appearances_concat_of_ne (.inl own)]
        exact ih

theorem distanceOf_reachableTests (function : String) (testees : List Testee) (id : String)
    : distanceOf (reachableTests function testees) id
      = ((appearances function testees id).map (·.distance)).min? :=
  (listed?_reachableTests function testees id).2

theorem nodup_ids_reachableTests (function : String) (testees : List Testee)
    : ((reachableTests function testees).map (·.test.id)).Nodup := by
  rw [ids_reachableTests]
  exact nodup_eraseDups _

theorem closestOf_reachableTests {function : String} {testees : List Testee}
    {reachable : ReachableTest} (member : reachable ∈ reachableTests function testees)
    : ClosestOf (appearances function testees reachable.test.id) reachable := by
  have found := listed?_of_mem (nodup_ids_reachableTests function testees) member
  obtain ⟨first, least⟩ := listed?_reachableTests function testees reachable.test.id
  rw [distanceOf, found] at least
  rw [found] at first
  exact ⟨first.symm, least.symm⟩

-----------------------------------------------------------------------------------------
-- Other orders and more testees
-----------------------------------------------------------------------------------------

/-- The distance of a test does not depend on the order of the testees. -/
theorem distanceOf_reachableTests_of_perm {testees other : List Testee}
    (sameTestees : testees.Perm other) (function id : String)
    : distanceOf (reachableTests function testees) id
      = distanceOf (reachableTests function other) id := by
  rw [distanceOf_reachableTests, distanceOf_reachableTests]
  exact min?_of_perm ((sameTestees.filter _).map _)

/-- Neither do the tests that are listed with their distances: no test is listed twice, so that the
pairs are those of the distances of the tests.
-/
theorem idDistances_reachableTests_of_perm {testees other : List Testee}
    (sameTestees : testees.Perm other) (function : String)
    : ((reachableTests function testees).map idDistance).Perm
        ((reachableTests function other).map idDistance) := by
  have distinct (testees : List Testee) := nodup_ids_reachableTests function testees
  have distinctPairs (testees : List Testee)
      : ((reachableTests function testees).map idDistance).Nodup := by
    refine List.Nodup.of_map Prod.fst ?_
    rw [List.map_map]
    exact distinct testees
  rw [List.perm_ext_iff_of_nodup (distinctPairs testees) (distinctPairs other)]
  rintro ⟨id, distance⟩
  rw [mem_idDistances (distinct testees), mem_idDistances (distinct other),
    distanceOf_reachableTests_of_perm sameTestees]

/-- More testees bring a test closer or leave it where it is. -/
theorem distanceOf_reachableTests_append (function : String) (testees more : List Testee)
    (id : String)
    : distanceOf (reachableTests function (testees ++ more)) id
      = (distanceOf (reachableTests function testees) id).merge min
          (distanceOf (reachableTests function more) id) := by
  simp only [distanceOf_reachableTests, appearances, List.filter_append, List.map_append,
    min?_append]

/-- The tests that reach a function are those of its testees, each listed once, in the order of the
first appearances, as it first appears and at the smallest distance of its appearances. For testees
in another order, the same tests are listed with the same distances, and for two lists of testees, a
test gets the smaller one of its distances.
-/
theorem reachableTests_closest (function : String) (testees : List Testee)
    : let reachables := reachableTests function testees
      reachables.map (·.test.id)
        = ((testees.filter (·.function == function)).map (·.test.id)).eraseDups
      ∧ (reachables.map (·.test.id)).Nodup
      ∧ (∀ reachable ∈ reachables,
          ClosestOf (appearances function testees reachable.test.id) reachable)
      ∧ (∀ other,
          testees.Perm other
          → (reachables.map idDistance).Perm ((reachableTests function other).map idDistance))
      ∧ ∀ more id,
          distanceOf (reachableTests function (testees ++ more)) id
          = (distanceOf reachables id).merge min
              (distanceOf (reachableTests function more) id) :=
  ⟨ids_reachableTests function testees,
    nodup_ids_reachableTests function testees,
    fun _ member => closestOf_reachableTests member,
    fun _ sameTestees => idDistances_reachableTests_of_perm sameTestees function,
    distanceOf_reachableTests_append function testees⟩

/-- Two tests reach an allocating function, the first one of them on two ways and in a copy that
takes another entry. A third test comes with more testees, which also bring the second test closer.
-/
theorem sample_reachableTests_closest
    : let first : UnitTest := { id := "first", entry := "check" }
      let second : UnitTest := { id := "second", entry := "check" }
      let third : UnitTest := { id := "third", entry := "check" }
      let testees : List Testee :=
        [⟨"alloc", first, 3⟩, ⟨"lex", first, 1⟩, ⟨"alloc", second, 2⟩,
          ⟨"alloc", { first with entry := "again" }, 1⟩]
      let more : List Testee := [⟨"alloc", third, 4⟩, ⟨"alloc", second, 0⟩]
      let reachables := reachableTests "alloc" testees
      reachables = [⟨first, 1⟩, ⟨second, 2⟩]
      ∧ reachables.map (·.test.id) = ["first", "second"]
      ∧ (reachables.map (·.test.id)).Nodup
      ∧ ClosestOf (appearances "alloc" testees "first") ⟨first, 1⟩
      ∧ (reachables.map idDistance).Perm
          ((reachableTests "alloc" (testees.rotate 2)).map idDistance)
      ∧ (reachableTests "alloc" (testees.rotate 2)).map idDistance
        = [("second", 2), ("first", 1)]
      ∧ distanceOf (reachableTests "alloc" (testees ++ more)) "second" = some 0 := by
  intro first second third testees more reachables
  obtain ⟨ids, distinct, closest, anyOrder, together⟩ := reachableTests_closest "alloc" testees
  refine ⟨by decide, ?_, distinct, ?_, ?_, by decide, ?_⟩
  · exact ids.trans (by decide)
  · exact closest ⟨first, 1⟩ (by decide)
  · exact anyOrder (testees.rotate 2) (testees.rotate_perm 2).symm
  · exact (together more "second").trans (by decide)

end MutationTesting
