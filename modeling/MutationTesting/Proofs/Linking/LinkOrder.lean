import MutationTesting.Proofs.Linking.Bindings
import MutationTesting.Proofs.Lists.FirstAppearances
import MutationTesting.Proofs.Trampoline.Slots
import MutationTesting.Sample.Single

/-! The order in which object files are linked decides only where their functions lie. Linking fails
in one order exactly if it fails in every other one; names stand for the same code and for the same
slots, and the same references are left unresolved; and once the slots of both images are fixed up,
no call by name can tell the images apart.
-/

namespace MutationTesting

-----------------------------------------------------------------------------------------
-- Images
-----------------------------------------------------------------------------------------

namespace Image

/-- Names stand for the same in both images, wherever the code lies, and both lack the same. -/
structure SameNames (left right : Image) : Prop where
  leftSound : left.Sound
  rightSound : right.Sound
  meaning : ∀ name, left.meaning? name = right.meaning? name
  unresolved : left.unresolved.Perm right.unresolved

section

variable {objects permuted : List ObjectFile}

theorem definitions_perm (perm : objects.Perm permuted)
    : (definitions objects).Perm (definitions permuted) :=
  perm.flatMap_right _

/-- Object files define a symbol twice in one order exactly if they do so in the other one. -/
theorem nodup_symbols_perm (perm : objects.Perm permuted)
    : (symbolsOf (definitions objects)).Nodup ↔ (symbolsOf (definitions permuted)).Nodup :=
  ((definitions_perm perm).map _).nodup_iff

/-- Linking fails exactly if some symbol is defined twice. -/
theorem link_fails_iff (objects : List ObjectFile) (resolver : Resolver)
    : (∃ error, Image.link objects resolver = .error error)
      ↔ ¬ (symbolsOf (definitions objects)).Nodup := by
  rcases link_cases objects resolver with ⟨distinct, image, linked⟩ | ⟨error, twice, failed⟩
  · simp [distinct, linked]
  · simp [twice.not_nodup, failed]

/-- Where no symbol is defined twice, names mean the same in every order, since there is only one
definition that may come first.
-/
theorem linkedMeaning_perm (perm : objects.Perm permuted)
    (distinct : (symbolsOf (definitions objects)).Nodup) (resolver : Resolver) (name : String)
    : linkedMeaning objects resolver name = linkedMeaning permuted resolver name := by
  cases found : (definitions objects).find? (·.2.symbol == name) with
  | some definition =>
      have member := List.mem_of_find?_eq_some found
      obtain rfl : definition.2.symbol = name := by simpa using List.find?_some found
      rw [linkedMeaning_of_mem distinct member,
        linkedMeaning_of_mem ((nodup_symbols_perm perm).mp distinct)
          ((definitions_perm perm).mem_iff.mp member)]
  | none =>
      have undefinedToo : (definitions permuted).find? (·.2.symbol == name) = none := by
        rw [find?_definitions_eq_none] at found ⊢
        exact fun object member => found object (perm.mem_iff.mpr member)
      simp only [linkedMeaning, found, undefinedToo, (perm.flatMap_right (·.references)).mem_iff]

/-- In every order the same references are noted as unresolved. -/
theorem unresolved_perm (perm : objects.Perm permuted) {resolver : Resolver} {left right : Image}
    (linked : Image.link objects resolver = .ok left)
    (linkedToo : Image.link permuted resolver = .ok right)
    (same : ∀ name, linkedMeaning objects resolver name = linkedMeaning permuted resolver name)
    : left.unresolved.Perm right.unresolved := by
  rw [unresolved_of_link linked, unresolved_of_link linkedToo,
    List.perm_ext_iff_of_nodup (nodup_eraseDups _) (nodup_eraseDups _)]
  intro name
  simp only [List.mem_eraseDups, List.mem_filter, same, (perm.flatMap_right _).mem_iff]

/-- Images of the same object files have the same names. -/
theorem sameNames_of_perm (perm : objects.Perm permuted) {resolver : Resolver}
    {left right : Image} (linked : Image.link objects resolver = .ok left)
    (linkedToo : Image.link permuted resolver = .ok right)
    : left.SameNames right := by
  obtain ⟨sound, means⟩ := link_meaning linked
  obtain ⟨soundToo, meansToo⟩ := link_meaning linkedToo
  have same := linkedMeaning_perm perm (nodup_of_link linked) resolver
  exact {
    leftSound := sound
    rightSound := soundToo
    meaning := fun name => by rw [means, meansToo, same]
    unresolved := unresolved_perm perm linked linkedToo same
  }

end

end Image

-----------------------------------------------------------------------------------------
-- Programs
-----------------------------------------------------------------------------------------

/-- Related lists have related items at each place, or none. -/
theorem forall₂_getElem? {related : α → β → Prop} {lefts : List α} {rights : List β}
    (same : List.Forall₂ related lefts rights) (place : Nat)
    : lefts[place]? = none ∧ rights[place]? = none
      ∨ ∃ left right,
          lefts[place]? = some left ∧ rights[place]? = some right ∧ related left right := by
  induction same generalizing place with
  | nil => exact .inl ⟨rfl, rfl⟩
  | @cons left right _ _ first _ ih =>
      cases place with
      | zero => exact .inr ⟨left, right, rfl, rfl, first⟩
      | succ place => exact ih place

/-- The tables have slots of the same names, and slots of one name are for the same function. Where
they lead may differ.
-/
def TrampolineTable.SameSlots (left right : TrampolineTable) : Prop :=
  ∀ name, (left.find? name).map (·.function) = (right.find? name).map (·.function)

namespace LoadedProgram

/-- The tables of the program are the given ones, each of them fixed up for the image. -/
def FixedUpFrom (program : LoadedProgram) (tables : List TrampolineTable) : Prop :=
  List.Forall₂ (fun table fixed => table.fixup program.image.address? = (fixed, none)) tables
    program.tables

section

variable {program first second : LoadedProgram} {tables others : List TrampolineTable}

/-- Fixing tables up does not change which slot a handle is for, and no function of a slot is
missing.
-/
theorem slot?_of_fixedUpFrom (fixed : program.FixedUpFrom tables) (handle : SlotRef)
    : program.slot? handle = (handle.slot? tables).map (·.fixedUp program.image.address?)
      ∧ ∀ slot ∈ handle.slot? tables, (program.image.address? slot.function).isSome := by
  unfold slot? SlotRef.slot?
  rcases forall₂_getElem? fixed handle.table with
    ⟨none, noneToo⟩ | ⟨table, now, own, ownToo, complete⟩
  · simp [none, noneToo]
  · rw [own, ownToo, Option.bind_some, Option.bind_some]
    refine ⟨TrampolineTable.find?_of_fixup complete handle.name, fun slot found => ?_⟩
    exact (TrampolineTable.fixup_of_none complete).2 slot (TrampolineTable.mem_of_find? found)

/-- A slot that is fixed up leads to what the name of its function means in the image. -/
theorem bodyAt_fixedUp (sound : program.image.Sound) (fixed : program.FixedUpFrom tables)
    {handle : SlotRef} {slot : Slot} (own : handle.slot? tables = some slot)
    : ∃ address body,
        program.target? handle = some address
        ∧ program.image.function? address.raw = some body
        ∧ program.image.meaning? slot.function = some (.function body) := by
  obtain ⟨moved, resolved⟩ := slot?_of_fixedUpFrom fixed handle
  obtain ⟨address, there⟩ := Option.isSome_iff_exists.mp (resolved slot own)
  obtain ⟨body, lies, means⟩ := sound.meaning?_of_address there
  refine ⟨address, body, ?_, lies, means⟩
  rw [target?, moved, own]
  exact there

/-- Handles are for slots of one and the same function in both lists of tables. -/
theorem function_of_sameSlots (slots : List.Forall₂ TrampolineTable.SameSlots tables others)
    (handle : SlotRef)
    : (handle.slot? tables).map (·.function) = (handle.slot? others).map (·.function) := by
  unfold SlotRef.slot?
  rcases forall₂_getElem? slots handle.table with
    ⟨none, noneToo⟩ | ⟨table, other, own, ownToo, same⟩
  · rw [none, noneToo]
  · rw [own, ownToo]
    exact same handle.name

/-- Every name leads to the same code in both programs. A name that stands for a slot does so in
both images, and the slots are for one and the same function, which means the same in both.
-/
theorem callee_eq_of_sameNames (names : first.image.SameNames second.image)
    (slots : List.Forall₂ TrampolineTable.SameSlots tables others)
    (fixed : first.FixedUpFrom tables) (fixedToo : second.FixedUpFrom others) (name : String)
    : first.callee (.symbol name) = second.callee (.symbol name) := by
  rw [callee_symbol names.leftSound, callee_symbol names.rightSound, names.meaning]
  cases second.image.meaning? name with
  | none => rfl
  | some resolution =>
      cases resolution with
      | function body => rfl
      | slot handle =>
          have same := function_of_sameSlots slots handle
          cases own : handle.slot? tables with
          | none =>
              have free : handle.slot? others = none := by simpa [own] using same.symm
              simp [target?, slot?_of_fixedUpFrom fixed, slot?_of_fixedUpFrom fixedToo, own, free]
          | some slot =>
              obtain ⟨other, ownToo, function⟩ : ∃ other,
                  handle.slot? others = some other ∧ other.function = slot.function := by
                simpa [own] using same.symm
              obtain ⟨address, body, leads, lies, means⟩ :=
                bodyAt_fixedUp names.leftSound fixed own
              obtain ⟨place, code, leadsToo, liesToo, meansToo⟩ :=
                bodyAt_fixedUp names.rightSound fixedToo ownToo
              obtain rfl : body = code := by
                rw [names.meaning, ← function, meansToo] at means
                simpa using means.symm
              simp only [leads, leadsToo, bodyAt, lies, liesToo]

end

/-- The order in which object files are linked does not matter. Linking fails in both orders or in
none. If it succeeds, every name is bound in both images to the same code, to the same slot or to
nothing, and the same references are left unresolved. Once each image has its slots fixed up, in
tables of its own, all calls by name end alike at every depth, with the same answer or fault, when
code calls by name only.
-/
theorem link_perm {objects permuted : List ObjectFile} (perm : objects.Perm permuted)
    (resolver : Resolver)
    : ((∃ error, Image.link objects resolver = .error error)
        ↔ ∃ error, Image.link permuted resolver = .error error)
      ∧ ∀ left right,
          Image.link objects resolver = .ok left
          → Image.link permuted resolver = .ok right
          → left.SameNames right
            ∧ ∀ (first second : LoadedProgram) (tables others : List TrampolineTable),
                first.image = left
                → second.image = right
                → List.Forall₂ TrampolineTable.SameSlots tables others
                → first.FixedUpFrom tables
                → second.FixedUpFrom others
                → (∀ body ∈ left.functions, body.CallsOnly CallTarget.Named)
                → ∀ depth name args,
                    first.callWithin depth (.symbol name) args
                    = second.callWithin depth (.symbol name) args := by
  refine ⟨?_, fun left right linked linkedToo => ?_⟩
  · rw [Image.link_fails_iff, Image.link_fails_iff, Image.nodup_symbols_perm perm]
  · have names := Image.sameNames_of_perm perm linked linkedToo
    refine ⟨names, fun first second tables others own ownToo slots fixed fixedToo named => ?_⟩
    subst own ownToo
    exact callWithin_eq_of_callee named (callee_eq_of_sameNames names slots fixed fixedToo)

section

open Sample.Single

/-- Two object files in both orders. The function with a slot lies at different addresses, and two
references are left unresolved in different orders.
-/
theorem sample_link_perm
    : let test : Body := .wrapping .sub (.call "_one_trampoline" []) (.call "print" [])
      let program : ObjectFile :=
        {
          name := "program.o"
          definitions := [⟨"one", .const 1⟩]
          references := ["lost", "_one_trampoline"]
        }
      let tests : ObjectFile :=
        {
          name := "tests.o"
          definitions := [⟨"check", test⟩]
          references := ["gone", "print", "lost"]
        }
      let resolver : Resolver :=
        .withTrampolines source.emptyTable (.native { functions := [("print", .const 7)] } {})
      let left : Image :=
        {
          functions := [.const 1, test, .const 7]
          symbols :=
            [
              ("one", .function (.ofIndex 0)),
              ("check", .function (.ofIndex 1)),
              ("_one_trampoline", .slot (.own "_one_trampoline")),
              ("print", .function (.ofIndex 2))
            ]
          unresolved := ["lost", "gone"]
        }
      let right : Image :=
        {
          functions := [test, .const 1, .const 7]
          symbols :=
            [
              ("check", .function (.ofIndex 0)),
              ("one", .function (.ofIndex 1)),
              ("print", .function (.ofIndex 2)),
              ("_one_trampoline", .slot (.own "_one_trampoline"))
            ]
          unresolved := ["gone", "lost"]
        }
      let moved : Slot := { slot with target := some (.ofIndex 1), fixup := some (.ofIndex 1) }
      let first : LoadedProgram := { image := left, trampolines := { slots := [slot] } }
      let second : LoadedProgram := { image := right, trampolines := { slots := [moved] } }
      [program, tests].Perm [tests, program]
      ∧ Image.link [program, tests] resolver = .ok left
      ∧ Image.link [tests, program] resolver = .ok right
      ∧ List.Forall₂ TrampolineTable.SameSlots [source.emptyTable] [source.emptyTable]
      ∧ first.FixedUpFrom [source.emptyTable]
      ∧ second.FixedUpFrom [source.emptyTable]
      ∧ (∀ body ∈ left.functions, body.CallsOnly CallTarget.Named)
      ∧ left.SameNames right
      ∧ ∀ depth name args,
          first.callWithin depth (.symbol name) args
          = second.callWithin depth (.symbol name) args := by
  intro test program tests resolver left right moved first second
  have perm : [program, tests].Perm [tests, program] := .swap ..
  have table : source.emptyTable = { slots := [{ slot with target := none, fixup := none }] } := by
    decide
  -- Comparing names by `rfl` takes long, and no equality of images can be decided.
  obtain ⟨linked, linkedToo⟩
      : Image.link [program, tests] resolver = .ok left
        ∧ Image.link [tests, program] resolver = .ok right := by
    constructor <;>
      simp [Image.link, Image.definitions, Image.duplicate?, Image.resolve, Image.place,
        Image.binding?, List.lookup_cons, Resolver.withTrampolines, Resolver.withSlots,
        Resolver.native, HostLibrary.get?, TrampolineTable.find?, table, slot, resolver, program,
        tests, left, right]
  have slots : List.Forall₂ TrampolineTable.SameSlots [source.emptyTable] [source.emptyTable] :=
    .cons (fun _ => rfl) .nil
  have complete : source.emptyTable.fixup left.address? = ({ slots := [slot] }, none) := by decide
  have completeToo : source.emptyTable.fixup right.address? = ({ slots := [moved] }, none) := by
    decide
  have fixed : first.FixedUpFrom [source.emptyTable] := .cons complete .nil
  have fixedToo : second.FixedUpFrom [source.emptyTable] := .cons completeToo .nil
  have named : ∀ body ∈ left.functions, body.CallsOnly CallTarget.Named := by
    simp [left, test, Body.CallsOnly, Body.AllCallOnly, CallTarget.Named]
  obtain ⟨names, calls⟩ := (link_perm perm resolver).2 left right linked linkedToo
  exact ⟨perm, linked, linkedToo, slots, fixed, fixedToo, named, names,
    calls first second _ _ rfl rfl slots fixed fixedToo named⟩

end

end LoadedProgram

end MutationTesting
