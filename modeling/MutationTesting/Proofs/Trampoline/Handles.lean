import MutationTesting.Linking.LoadedProgram
import MutationTesting.Proofs.Trampoline.Registration

/-! Handles of slots. An index beside the slots has for every name the place of its slot, and an
image may keep such a place for as long as it likes, since slots stay where they are when they are
pointed elsewhere. What is written to a slot by its name is read through its handle.
-/

namespace MutationTesting

-----------------------------------------------------------------------------------------
-- Places
-----------------------------------------------------------------------------------------

namespace TrampolineTable

/-- The place of the slot of a name. -/
def place? (table : TrampolineTable) (name : String) : Option Nat :=
  table.slots.findIdx? (·.name == name)

/-- The slot of a name lies at its place. -/
theorem find?_eq_place (table : TrampolineTable) (name : String)
    : table.find? name = (table.place? name).bind (table.slots[·]?) :=
  List.find?_eq_bind_findIdx?_getElem?

theorem place?_isSome (table : TrampolineTable) (name : String)
    : (table.place? name).isSome = (table.find? name).isSome := by
  rw [place?, find?, List.findIdx?_isSome, Bool.eq_iff_iff, List.find?_isSome, List.any_eq_true]

theorem slot_of_place {table : TrampolineTable} {name : String} {place : Nat}
    (placed : table.place? name = some place)
    : ∃ slot, table.slots[place]? = some slot ∧ slot.name = name := by
  obtain ⟨inside, own, -⟩ := List.findIdx?_eq_some_iff_getElem.mp placed
  exact ⟨table.slots[place], List.getElem?_eq_getElem inside, by simpa using own⟩

end TrampolineTable

-----------------------------------------------------------------------------------------
-- Slots with an index
-----------------------------------------------------------------------------------------

/-- Slots and the places of their names. -/
structure IndexedSlots where
  slots : List Slot := []
  index : List (String × Nat) := []

namespace IndexedSlots

def place? (indexed : IndexedSlots) (name : String) : Option Nat := indexed.index.lookup name

/-- Adds a slot and its place unless its name is in the index. -/
def register (indexed : IndexedSlots) (slot : Slot) : IndexedSlots :=
  if (indexed.place? slot.name).isSome then
    indexed
  else
    {
      slots := indexed.slots ++ [slot]
      index := indexed.index ++ [(slot.name, indexed.slots.length)]
    }

def ofFunctions (mangler : Mangler) (functions : List String) : IndexedSlots :=
  functions.foldl (fun indexed function => indexed.register (.ofFunction mangler function)) {}

/-- The slots are those of the table, and the index has their places. -/
structure InStep (indexed : IndexedSlots) (table : TrampolineTable) : Prop where
  slots : indexed.slots = table.slots
  places : ∀ name, indexed.place? name = table.place? name

/-- Registering a slot keeps the index in step with the slots: a new slot lies behind all others. -/
theorem InStep.register {indexed : IndexedSlots} {table : TrampolineTable}
    (inStep : indexed.InStep table) (slot : Slot)
    : (indexed.register slot).InStep (table.register slot) := by
  unfold IndexedSlots.register TrampolineTable.register
  rw [inStep.places, TrampolineTable.place?_isSome]
  split
  · exact inStep
  · refine ⟨by rw [inStep.slots], fun name => ?_⟩
    have places := inStep.places name
    unfold place? TrampolineTable.place? at places ⊢
    rw [List.lookup_append, List.findIdx?_append, places, inStep.slots]
    by_cases same : slot.name = name
    · simp [same]
    · simp [same, List.lookup_cons, beq_eq_false_iff_ne.mpr (Ne.symm same)]

/-- Registering functions one after the other keeps the index in step throughout. -/
theorem ofFunctions_inStep (mangler : Mangler) (functions : List String)
    : (ofFunctions mangler functions).InStep (.ofFunctions mangler functions) := by
  unfold ofFunctions TrampolineTable.ofFunctions
  suffices kept : ∀ indexed table, InStep indexed table
      → (functions.foldl
          (fun indexed function => indexed.register (.ofFunction mangler function)) indexed).InStep
        (functions.foldl
          (fun table function => table.register (.ofFunction mangler function)) table)
      from kept {} {} ⟨rfl, fun _ => rfl⟩
  induction functions with
  | nil => exact fun _ _ inStep => inStep
  | cons function rest ih => exact fun _ _ inStep => ih _ _ (inStep.register _)

end IndexedSlots

-----------------------------------------------------------------------------------------
-- Tables that change
-----------------------------------------------------------------------------------------

/-- What a slot keeps wherever it points. -/
def Slot.label (slot : Slot) : String × String := (slot.name, slot.function)

namespace TrampolineTable

/-- What becomes of a table when slots are pointed elsewhere, be it by hand, by an activation or its
release, or by fixing the table up for some image, as far as that goes.
-/
inductive Becomes (table : TrampolineTable) : TrampolineTable → Prop
  | unchanged : Becomes table table
  | pointed {now : TrampolineTable} (earlier : Becomes table now) (name : String)
      (target : Option Address)
      : Becomes table (now.setTarget name target)
  | fixedUp {now : TrampolineTable} (earlier : Becomes table now)
      (address? : String → Option Address)
      : Becomes table (now.fixup address?).1

/-- The names of the slots and their functions. -/
def labels (table : TrampolineTable) : List (String × String) := table.slots.map Slot.label

theorem labels_setTarget (table : TrampolineTable) (name : String) (target : Option Address)
    : (table.setTarget name target).labels = table.labels := by
  rw [labels, labels, setTarget, List.map_map]
  refine List.map_congr_left fun slot _ => ?_
  by_cases own : slot.name = name <;> simp [own, Slot.label]

theorem labels_fixup (table : TrampolineTable) (address? : String → Option Address)
    : (table.fixup address?).1.labels = table.labels := by
  change (fixupSlots address? table.slots).1.map _ = table.slots.map _
  induction table.slots with
  | nil => rfl
  | cons slot rest ih =>
      cases found : address? slot.function <;> simp [fixupSlots, Slot.label, found, ih]

/-- Slots keep their names and functions. -/
theorem Becomes.labels_eq {table now : TrampolineTable} (becomes : table.Becomes now)
    : now.labels = table.labels := by
  induction becomes with
  | unchanged => rfl
  | pointed _ name target ih => rw [labels_setTarget, ih]
  | fixedUp _ address? ih => rw [labels_fixup, ih]

theorem names_of_labels (table : TrampolineTable)
    : table.slots.map (·.name) = table.labels.map (·.1) := by
  rw [labels, List.map_map]
  rfl

theorem Becomes.distinct {table now : TrampolineTable} (becomes : table.Becomes now)
    (distinct : table.Distinct)
    : now.Distinct := by
  unfold Distinct at distinct ⊢
  rwa [names_of_labels, becomes.labels_eq, ← names_of_labels]

/-- Slots keep their places. -/
theorem Becomes.place?_eq {table now : TrampolineTable} (becomes : table.Becomes now)
    (name : String)
    : now.place? name = table.place? name := by
  have byLabel (table : TrampolineTable)
      : table.place? name = table.labels.findIdx? (·.1 == name) := by
    rw [labels, List.findIdx?_map]
    rfl
  rw [byLabel, byLabel, becomes.labels_eq]

/-- A name finds a slot with the same label as before. -/
theorem Becomes.find?_label {table now : TrampolineTable} (becomes : table.Becomes now)
    (name : String)
    : (now.find? name).map Slot.label = (table.find? name).map Slot.label := by
  have byPlace (table : TrampolineTable)
      : (table.find? name).map Slot.label = (table.place? name).bind (table.labels[·]?) := by
    rw [find?_eq_place, Option.map_bind]
    refine congrArg _ (funext fun place => ?_)
    rw [labels, List.getElem?_map]
    rfl
  rw [byPlace, byPlace, becomes.place?_eq, becomes.labels_eq]

/-- Where names are distinct, pointing a slot somewhere changes what lies at its place. -/
theorem Distinct.setTarget_slots {table : TrampolineTable} (distinct : table.Distinct)
    {name : String} {place : Nat} (placed : table.place? name = some place)
    (target : Option Address)
    : (table.setTarget name target).slots
      = table.slots.modify place fun slot => { slot with target } := by
  obtain ⟨own, lies, named⟩ := slot_of_place placed
  refine List.ext_getElem? fun other => ?_
  rw [setTarget, List.getElem?_map, List.getElem?_modify]
  by_cases here : place = other
  · subst here
    simp [lies, named]
  · cases there : table.slots[other]? with
    | none => simp
    | some slot =>
        have different : slot.name ≠ name := by
          intro same
          have inside := (List.getElem?_eq_some_iff.mp lies).1
          refine here ((List.getElem?_inj (by simpa using inside) distinct).mp ?_)
          simp [lies, there, named, same]
        simp [here, different]

end TrampolineTable

-----------------------------------------------------------------------------------------
-- Handles
-----------------------------------------------------------------------------------------

/-- The handle that the index has for a name leads to the slot that the table has for it, or there
is neither of them.
-/
structure IndexedSlots.SharesSlot (indexed : IndexedSlots) (now : TrampolineTable) (name : String)
    : Prop where
  /-- Without a handle there is no slot, and a reference is left to others. -/
  missing
    : indexed.place? name = none
      → now.find name = .error (.unregistered name)
        ∧ ∀ fallback, Resolver.withTrampolines now fallback name = fallback name
  /-- With a handle there is a slot at its place, and a reference is bound to it. -/
  found
    : ∀ place,
        indexed.place? name = some place
        → (∃ slot,
            now.slots[place]? = some slot ∧ slot.name = name ∧ now.find name = .ok slot)
          ∧ ∀ fallback, Resolver.withTrampolines now fallback name = some (.slot (.own name))
  /-- Calls lead to what the handle reads. -/
  read
    : ∀ place,
        indexed.place? name = some place
        → ∀ image foreign,
            LoadedProgram.target? { image, trampolines := now, foreign } (.own name)
            = now.slots[place]?.bind (·.target)
  /-- What is written by name is written to the place of the handle, and nowhere else. -/
  written
    : ∀ place,
        indexed.place? name = some place
        → ∀ target,
            (now.setTarget name target).slots
            = now.slots.modify place fun slot => { slot with target }

/-- Handles of an index that is in step with a table share the slots of the table, and still do so
when the slots have been pointed elsewhere.
-/
theorem IndexedSlots.InStep.sharesSlot {indexed : IndexedSlots} {table now : TrampolineTable}
    (inStep : indexed.InStep table) (distinct : table.Distinct) (becomes : table.Becomes now)
    (name : String)
    : indexed.SharesSlot now name := by
  have places : indexed.place? name = now.place? name :=
    (inStep.places name).trans (becomes.place?_eq name).symm
  have lookup := now.find?_eq_place name
  rw [← places] at lookup
  exact {
    missing := fun none => by
      rw [none] at lookup
      refine ⟨by simp [TrampolineTable.find, lookup], fun fallback => ?_⟩
      simp [Resolver.withTrampolines, Resolver.withSlots, lookup]
    found := fun place placed => by
      obtain ⟨slot, there, own⟩ := TrampolineTable.slot_of_place (places.symm.trans placed)
      have named : now.find? name = some slot := by
        rw [lookup, placed]
        exact there
      refine ⟨⟨slot, there, own, TrampolineTable.find_eq_ok_iff.mpr named⟩, fun fallback => ?_⟩
      simp [Resolver.withTrampolines, Resolver.withSlots, named]
    read := fun place placed image foreign => by
      rw [placed] at lookup
      rw [LoadedProgram.target?_own, LoadedProgram.slotTarget?, lookup]
      rfl
    written := fun place placed target =>
      (becomes.distinct distinct).setTarget_slots (places.symm.trans placed) target
  }

end MutationTesting
