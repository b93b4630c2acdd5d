import MutationTesting.Proofs.Trampoline.Handles
import MutationTesting.Session.Workbench

/-! Fixing a table up is exact, also when it fails. Slots are fixed up in their order as long as
their functions are in the image that is linked. The first function that is not there stops this,
and then its slot and all later ones are left alone, whatever they held before.
-/

namespace MutationTesting

-----------------------------------------------------------------------------------------
-- Slots
-----------------------------------------------------------------------------------------

namespace TrampolineTable

/-- Slots whose functions are found are fixed up in front of all others. -/
theorem fixupSlots_append {address? : String → Option Address} {earlier : List Slot}
    (found : ∀ slot ∈ earlier, (address? slot.function).isSome) (rest : List Slot)
    : fixupSlots address? (earlier ++ rest)
      = (earlier.map (·.fixedUp address?) ++ (fixupSlots address? rest).1,
          (fixupSlots address? rest).2) := by
  induction earlier with
  | nil => rfl
  | cons slot others ih =>
      obtain ⟨here, there⟩ := List.forall_mem_cons.mp found
      obtain ⟨address, lies⟩ := Option.isSome_iff_exists.mp here
      simp [fixupSlots, lies, ih there, Slot.fixedUp]

/-- A slot whose function is missing is not touched, and neither is any behind it. -/
theorem fixupSlots_of_missing {address? : String → Option Address} {slot : Slot}
    (missing : address? slot.function = none) (later : List Slot)
    : fixupSlots address? (slot :: later)
      = (slot :: later, some (.unresolvedFunction slot.function slot.name)) := by
  simp [fixupSlots, missing]

/-- A table that is fixed up completely does not show what its slots held before. -/
theorem fixup_eq_of_labels {table other : TrampolineTable} {address? : String → Option Address}
    (found : ∀ slot ∈ table.slots, (address? slot.function).isSome)
    (same : other.labels = table.labels)
    : other.fixup address? = ({ slots := table.slots.map (·.fixedUp address?) }, none) := by
  let fixed (label : String × String) : Slot :=
    { name := label.1, function := label.2, target := address? label.2, fixup := address? label.2 }
  have byLabel (table : TrampolineTable)
      : table.slots.map (·.fixedUp address?) = table.labels.map fixed := by
    rw [labels, List.map_map]
    rfl
  have foundToo : ∀ slot ∈ other.slots, (address? slot.function).isSome := by
    intro slot member
    have labelled : slot.label ∈ table.labels := same ▸ List.mem_map_of_mem member
    obtain ⟨own, listed, equal⟩ := List.mem_map.mp labelled
    have function : own.function = slot.function := congrArg Prod.snd equal
    exact function ▸ found own listed
  have complete := fixupSlots_append foundToo []
  rw [List.append_nil] at complete
  rw [fixup, complete, byLabel, byLabel, same]
  simp [fixupSlots]

end TrampolineTable

-----------------------------------------------------------------------------------------
-- Workbenches
-----------------------------------------------------------------------------------------

namespace Workbench

/-- The function of a slot is a function of the image that is linked, and lies at the address. -/
def Locates (bench : Workbench) (slot : Slot) (address : Address) : Prop :=
  ∃ linked, bench.linked = some linked
    ∧ linked.image.binding? slot.function = some (.function address)

/-- The slot before and after it has been fixed up. -/
def FixesUp (bench : Workbench) (before after : Slot) : Prop :=
  ∃ address,
    bench.Locates before address
    ∧ after = { before with target := some address, fixup := some address }

/-- The slot is the first one whose function is missing. -/
structure FirstMissing (bench : Workbench) (earlier : List Slot) (slot : Slot) (later : List Slot)
    : Prop where
  slots : bench.table.slots = earlier ++ slot :: later
  located : ∀ before ∈ earlier, ∃ address, bench.Locates before address
  missing : ∀ address, ¬ bench.Locates slot address

/-- All slots have been fixed up. -/
structure FixedUpTo (bench now : Workbench) : Prop where
  slots : List.Forall₂ bench.FixesUp bench.table.slots now.table.slots
  /-- Calls through every slot reach its own function. -/
  own : ∀ slot ∈ now.table.slots, slot.reachesFunction
  /-- Wherever slots are pointed afterwards, fixing up leads back here. -/
  again
    : ∀ table, now.table.Becomes table → ({ now with table } : Workbench).fixup = (none, now)

theorem locates_iff {bench : Workbench} {slot : Slot} {address : Address}
    : bench.Locates slot address ↔ bench.address? slot.function = some address := by
  unfold Locates Workbench.address? Image.address?
  cases bench.linked with
  | none => simp
  | some linked =>
      cases bound : linked.image.binding? slot.function with
      | none => simp [bound]
      | some binding => cases binding <;> simp [bound]

theorem exists_locates_iff {bench : Workbench} {slot : Slot}
    : (∃ address, bench.Locates slot address) ↔ (bench.address? slot.function).isSome := by
  simp only [locates_iff, Option.isSome_iff_exists]

theorem fixesUp_fixedUp {bench : Workbench} {slot : Slot} {address : Address}
    (located : bench.Locates slot address)
    : bench.FixesUp slot (slot.fixedUp bench.address?) :=
  ⟨address, located, by rw [Slot.fixedUp, locates_iff.mp located]⟩

theorem forall₂_fixedUp {bench : Workbench} {slots : List Slot}
    (located : ∀ slot ∈ slots, ∃ address, bench.Locates slot address)
    : List.Forall₂ bench.FixesUp slots (slots.map (·.fixedUp bench.address?)) := by
  rw [List.forall₂_map_right_iff, List.forall₂_same]
  intro slot member
  obtain ⟨address, lies⟩ := located slot member
  exact fixesUp_fixedUp lies

theorem fixup_of_table {bench : Workbench} {table : TrampolineTable}
    {error : Option TrampolineError} (done : bench.table.fixup bench.address? = (table, error))
    : bench.fixup = (error, { bench with table }) := by
  rw [fixup, done]

/-- When all functions are there, all slots are fixed up. -/
theorem fixup_of_located {bench : Workbench}
    (located : ∀ slot ∈ bench.table.slots, ∃ address, bench.Locates slot address)
    : bench.fixup.1 = none ∧ bench.FixedUpTo bench.fixup.2 := by
  have found := fun slot member => exists_locates_iff.mp (located slot member)
  rw [fixup_of_table (TrampolineTable.fixup_eq_of_labels found rfl)]
  refine ⟨rfl, ?_, ?_, ?_⟩
  · exact forall₂_fixedUp located
  · intro slot member
    obtain ⟨before, listed, rfl⟩ := List.mem_map.mp member
    exact Slot.fixedUp_reachesFunction (found before listed)
  · intro table becomes
    have labels : table.labels = bench.table.labels := by
      rw [becomes.labels_eq, TrampolineTable.labels, TrampolineTable.labels, List.map_map]
      rfl
    exact fixup_of_table (TrampolineTable.fixup_eq_of_labels found labels)

/-- The first function that is missing stops fixing up. -/
theorem FirstMissing.fixup_eq {bench : Workbench} {earlier later : List Slot} {slot : Slot}
    (first : bench.FirstMissing earlier slot later)
    : bench.fixup
      = (some (.unresolvedFunction slot.function slot.name),
          {
            bench with
            table := { slots := earlier.map (·.fixedUp bench.address?) ++ slot :: later }
          }) := by
  have found := fun before member => exists_locates_iff.mp (first.located before member)
  have missing : bench.address? slot.function = none := by
    rw [Option.eq_none_iff_forall_ne_some]
    exact fun address lies => first.missing address (locates_iff.mpr lies)
  have stopped := TrampolineTable.fixupSlots_append found (slot :: later)
  rw [TrampolineTable.fixupSlots_of_missing missing, ← first.slots] at stopped
  exact fixup_of_table (by rw [TrampolineTable.fixup, stopped])

/-- Either all functions are there or there is a first one that is not. -/
theorem located_or_firstMissing (bench : Workbench)
    : (∀ slot ∈ bench.table.slots, ∃ address, bench.Locates slot address)
      ∨ ∃ earlier slot later, bench.FirstMissing earlier slot later := by
  cases search : bench.table.slots.find? fun slot => (bench.address? slot.function).isNone with
  | none =>
      refine .inl fun slot member => exists_locates_iff.mpr ?_
      simpa [Option.isSome_iff_ne_none] using List.find?_eq_none.mp search slot member
  | some slot =>
      obtain ⟨missing, earlier, later, split, found⟩ := List.find?_eq_some_iff_append.mp search
      refine .inr ⟨earlier, slot, later, split, fun before member => ?_, fun address lies => ?_⟩
      · exact exists_locates_iff.mpr (by simpa using found before member)
      · rw [locates_iff.mp lies] at missing
        simp at missing

/-- Without an image no function is there, and nothing changes. -/
theorem fixup_of_unlinked {bench : Workbench} (unlinked : bench.linked = none)
    : bench.fixup.2 = bench := by
  have nowhere (slot : Slot) (address : Address) : ¬ bench.Locates slot address := by
    rintro ⟨linked, present, -⟩
    rw [unlinked] at present
    exact nomatch present
  cases slots : bench.table.slots with
  | nil =>
      have empty : bench.table = { slots := [] } := congrArg TrampolineTable.mk slots
      rw [fixup, TrampolineTable.fixup, slots]
      simp only [TrampolineTable.fixupSlots, ← empty]
  | cons slot later =>
      have first : bench.FirstMissing [] slot later := ⟨slots, by simp, nowhere slot⟩
      have same : bench.table = { slots := slot :: later } := congrArg TrampolineTable.mk slots
      rw [first.fixup_eq, List.map_nil, List.nil_append, ← same]

/-- What fixing up does to a workbench, whatever its slots hold and whatever is linked. It
succeeds exactly if the functions of all slots are functions of the image that is linked. Then
every slot holds the address of its function and remembers it, and fixing up again leads to the
same slots, wherever they were pointed in the meantime. Otherwise the error blames the first slot
whose function is missing: the slots before it are fixed up, and it and the slots behind it keep
all that they hold. So nothing changes while there is no image. Nothing but slots changes in any
case.
-/
theorem fixup_outcome (bench : Workbench)
    : let answer := bench.fixup.1
      let now := bench.fixup.2
      now = { bench with table := now.table }
      ∧ (answer = none ↔ ∀ slot ∈ bench.table.slots, ∃ address, bench.Locates slot address)
      ∧ (answer = none → bench.FixedUpTo now)
      ∧ (∀ error,
          answer = some error
          ↔ ∃ earlier slot later,
              bench.FirstMissing earlier slot later
              ∧ error = .unresolvedFunction slot.function slot.name)
      ∧ (∀ earlier slot later,
          bench.FirstMissing earlier slot later
          → ∃ fixed,
              List.Forall₂ bench.FixesUp earlier fixed
              ∧ now.table.slots = fixed ++ slot :: later)
      ∧ (bench.linked = none → now = bench) := by
  intro answer now
  have stops {earlier later : List Slot} {slot : Slot}
      (first : bench.FirstMissing earlier slot later)
      : answer = some (.unresolvedFunction slot.function slot.name) :=
    congrArg Prod.fst first.fixup_eq
  have succeeds : answer = none
      ↔ ∀ slot ∈ bench.table.slots, ∃ address, bench.Locates slot address := by
    refine ⟨fun done => ?_, fun located => (fixup_of_located located).1⟩
    rcases bench.located_or_firstMissing with located | ⟨earlier, slot, later, first⟩
    · exact located
    · exact nomatch done.symm.trans (stops first)
  refine ⟨rfl, succeeds, fun done => (fixup_of_located (succeeds.mp done)).2, ?_, ?_,
    fixup_of_unlinked⟩
  · refine fun error => ⟨fun failed => ?_, ?_⟩
    · rcases bench.located_or_firstMissing with located | ⟨earlier, slot, later, first⟩
      · exact nomatch failed.symm.trans (succeeds.mpr located)
      · exact ⟨earlier, slot, later, first, Option.some.inj (failed.symm.trans (stops first))⟩
    · rintro ⟨earlier, slot, later, first, rfl⟩
      exact stops first
  · intro earlier slot later first
    refine ⟨earlier.map (·.fixedUp bench.address?), forall₂_fixedUp first.located, ?_⟩
    simp only [now, first.fixup_eq]

/-- The second of three functions is only known as a slot of the image: the first slot leaves
what it held for its function, and the others keep what they hold from an image that is gone.
Where the second function is linked, a mutant that is put into its slot later does not keep
fixing up from leading back.
-/
theorem sample_fixup_outcome
    : let f : Slot := { name := "_f", function := "f", target := Address.ofIndex 7 }
      let g : Slot :=
        { name := "_g", function := "g", target := Address.ofIndex 8, fixup := Address.ofIndex 9 }
      let h : Slot := { name := "_h", function := "h", fixup := Address.ofIndex 6 }
      let bench (binding : Binding) : Workbench :=
        {
          objects := []
          runner := {}
          table := { slots := [f, g, h] }
          linked :=
            some
              {
                image :=
                  {
                    symbols :=
                      [("f", .function (.ofIndex 0)), ("g", binding), ("h", .function (.ofIndex 1))]
                  }
              }
        }
      let partly := (bench (.slot (.own "_g"))).fixup
      let fully := (bench (.function (.ofIndex 2))).fixup
      partly.1 = some (.unresolvedFunction "g" "_g")
      ∧ partly.2.table.slots
        = [{ f with target := Address.ofIndex 0, fixup := Address.ofIndex 0 }, g, h]
      ∧ fully.1 = none
      ∧ (∀ slot ∈ fully.2.table.slots, slot.reachesFunction)
      ∧ ({
            fully.2 with
            table := fully.2.table.setTarget "_g" (some (.ofIndex 5))
          } : Workbench).fixup
        = (none, fully.2) := by
  intro f g h bench partly fully
  obtain ⟨-, -, -, blamed, stopped, -⟩ := (bench (.slot (.own "_g"))).fixup_outcome
  obtain ⟨-, succeeds, complete, -⟩ := (bench (.function (.ofIndex 2))).fixup_outcome
  have first : (bench (.slot (.own "_g"))).FirstMissing [f] g [h] := {
    slots := rfl
    located := by simpa using ⟨_, locates_iff.mpr rfl⟩
    missing := fun address lies => nomatch locates_iff.mp lies
  }
  have done : fully.1 = none := succeeds.mpr fun slot member => by
    simp only [bench, List.mem_cons, List.not_mem_nil, or_false] at member
    rcases member with rfl | rfl | rfl <;> exact ⟨_, locates_iff.mpr rfl⟩
  obtain ⟨fixed, fixes, slots⟩ := stopped _ _ _ first
  obtain ⟨_, _, ⟨address, lies, rfl⟩, none, rfl⟩ := List.forall₂_cons_left_iff.mp fixes
  obtain rfl := List.forall₂_nil_left_iff.mp none
  obtain rfl : Address.ofIndex 0 = address := Option.some.inj (locates_iff.mp lies)
  exact ⟨(blamed _).mpr ⟨_, _, _, first, rfl⟩, slots, done, (complete done).own,
    (complete done).again _ (.pointed .unchanged _ _)⟩

end Workbench

end MutationTesting
