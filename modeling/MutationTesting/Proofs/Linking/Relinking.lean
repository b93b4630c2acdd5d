import MutationTesting.Proofs.Linking.Bindings
import MutationTesting.Proofs.Trampoline.Slots
import MutationTesting.Sample.Single

/-! Activating a mutant is the same as linking it in the place of its function. The image that is
linked anew has other functions at other addresses and no slots in front of them, yet no call by
name can tell the two programs apart.
-/

namespace MutationTesting

-----------------------------------------------------------------------------------------
-- Linking anew
-----------------------------------------------------------------------------------------

namespace Resolver

/-- Like a resolver with the slots of a table, but code takes the place of the slots: the given
body for the slot of the given name, and for every other slot the code that the image has for
the function of the slot.
-/
def relinked (table : TrampolineTable) (image : Image) (name : String) (body : Body)
    (fallback : Resolver)
    : Resolver := fun symbol =>
  if symbol = name then
    some (.function body)
  else
    match table.find? symbol with
    | some slot =>
        ((image.address? slot.function).bind (image.function? ·.raw)).map .function
    | none => fallback symbol

/-- Like the given resolver, but code takes the place of all slots that lead to some. -/
def withoutSlots (program : LoadedProgram) (resolver : Resolver) : Resolver := fun symbol =>
  match resolver symbol with
  | some (.slot handle) =>
      match (program.target? handle).bind (program.image.function? ·.raw) with
      | some body => some (.function body)
      | none => some (.slot handle)
  | other => other

end Resolver

/-- Linking fails for the same reason whatever the resolver. -/
theorem Image.link_isOk {objects : List ObjectFile} {resolver other : Resolver} {image : Image}
    (linked : Image.link objects resolver = .ok image)
    : ∃ relinked, Image.link objects other = .ok relinked := by
  unfold Image.link at linked ⊢
  cases duplicate : duplicate? [] (definitions objects) with
  | some error => simp [duplicate] at linked
  | none => exact ⟨_, rfl⟩

namespace LoadedProgram

/-- What a name may stand for in an image of the same object files that is linked anew, with the
given tables for its slots. Code stays, and the code that a slot leads to may take the place of
the slot. A slot may stay as well if it leads nowhere or to a definition, since all other code may
lie elsewhere in the new image.
-/
inductive Replaces (program : LoadedProgram) (objects : List ObjectFile)
    (tables : List TrampolineTable)
    : Option Resolution → Option Resolution → Prop where
  | missing : Replaces program objects tables none none
  | function (body : Body)
    : Replaces program objects tables (some (.function body)) (some (.function body))
  | direct {handle : SlotRef} {address : Address} {body : Body}
    (leads : program.target? handle = some address)
    (lies : program.image.function? address.raw = some body)
    : Replaces program objects tables (some (.slot handle)) (some (.function body))
  | kept {handle : SlotRef}
    (shared : (handle.slot? tables).bind (·.target) = program.target? handle)
    (defined
      : ∀ address ∈ program.target? handle,
          address.raw < (Address.ofIndex (Image.definitions objects).length).raw)
    : Replaces program objects tables (some (.slot handle)) (some (.slot handle))

section

variable {program : LoadedProgram} {objects : List ObjectFile} {tables : List TrampolineTable}

/-- What is not a slot may not be changed. -/
theorem replaces_iff_of_noSlot {old new : Option Resolution}
    (noSlot : ∀ handle, old ≠ some (.slot handle))
    : program.Replaces objects tables old new ↔ new = old := by
  constructor
  · intro replaces
    cases replaces with
    | missing => rfl
    | function body => rfl
    | direct leads lies => exact absurd rfl (noSlot _)
    | kept shared defined => exact absurd rfl (noSlot _)
  · rintro rfl
    cases new with
    | none => exact .missing
    | some resolution =>
        cases resolution with
        | function body => exact .function body
        | slot handle => exact absurd rfl (noSlot handle)

/-- Code can take the place of all slots that a resolver hands out, if these lead to functions or
nowhere.
-/
theorem replaces_withoutSlots {resolver : Resolver} {symbol : String}
    (leads
      : ∀ handle,
          resolver symbol = some (.slot handle)
          → (∃ body,
              (program.target? handle).bind (program.image.function? ·.raw) = some body)
            ∨ program.target? handle = none ∧ (handle.slot? tables).bind (·.target) = none)
    : program.Replaces objects tables (resolver symbol)
        (resolver.withoutSlots program symbol) := by
  unfold Resolver.withoutSlots
  cases answer : resolver symbol with
  | none => exact .missing
  | some resolution =>
      cases resolution with
      | function body => exact .function body
      | slot handle =>
          rcases leads handle answer with ⟨body, found⟩ | ⟨nowhere, shared⟩
          · obtain ⟨address, target, lies⟩ := Option.bind_eq_some_iff.mp found
            simpa only [found] using .direct target lies
          · simpa only [nowhere, Option.bind_none] using
              .kept (shared.trans nowhere.symm) (by simp [nowhere])

/-- A name leads to the same code in both programs if what it stands for in the second one may take
the place of what it stands for in the first one.
-/
theorem callee_of_replaces {resolver other : Resolver} {image : Image}
    {own : TrampolineTable} {others : List TrampolineTable}
    (linked : Image.link objects resolver = .ok program.image)
    (again : Image.link objects other = .ok image) {name : String}
    (replaces
      : program.Replaces objects (own :: others) (program.image.meaning? name)
          (image.meaning? name))
    : program.callee (.symbol name)
      = (LoadedProgram.mk image own others).callee (.symbol name) := by
  have sound := (Image.link_meaning linked).1
  have soundToo := (Image.link_meaning again).1
  rw [callee_symbol sound, callee_symbol soundToo]
  generalize program.image.meaning? name = old at replaces
  dsimp only
  generalize image.meaning? name = new at replaces
  cases replaces with
  | missing => rfl
  | function body => rfl
  | direct leads lies => simp only [leads, bodyAt, lies]
  | @kept handle shared defined =>
      have same : (LoadedProgram.mk image own others).target? handle = program.target? handle :=
        shared
      simp only [same]
      cases target : program.target? handle with
      | none => rfl
      | some address =>
          simp only [bodyAt, Image.function?_eq_of_link linked again (defined address target)]

end

-----------------------------------------------------------------------------------------
-- With a mutant in its slot
-----------------------------------------------------------------------------------------

/-- The slot of a mutant leads to the mutant, every other one to its own function, and a name
without a slot leads nowhere.
-/
theorem slotTarget?_activate {table fixed : TrampolineTable} {image : Image}
    (complete : table.fixup image.address? = (fixed, none)) {name : String} {slot : Slot}
    (found : fixed.find? name = some slot) (address : Address) (foreign : List TrampolineTable)
    (other : String)
    : (LoadedProgram.mk image (fixed.activate slot address).1 foreign).slotTarget? other
      = if other = name then
          some address
        else
          (table.find? other).bind (image.address? ·.function) := by
  unfold slotTarget?
  by_cases same : other = name
  · subst same
    rw [TrampolineTable.find?_activate_self found address]
    simp
  · rw [TrampolineTable.find?_activate_of_ne found same address,
      TrampolineTable.find?_of_fixup complete]
    cases table.find? other <;> simp [same, Slot.fixedUp]

section

variable {objects : List ObjectFile} {table fixed : TrampolineTable}
  {foreign tables : List TrampolineTable} {fallback substitute : Resolver} {image relinked : Image}
  {name : String} {slot : Slot} {address : Address} {mutant : Body}

/-- What the resolver of the new image says may take the place of what the one with slots says: code
in the place of the slots of the table, and what replaces the fallback otherwise.
-/
theorem replaces_relinked
    (linked : Image.link objects (.withTrampolines table fallback) = .ok image)
    (complete : table.fixup image.address? = (fixed, none))
    (found : fixed.find? name = some slot) (lies : image.function? address.raw = some mutant)
    {symbol : String}
    (replaces
      : table.find? symbol = none
        → (LoadedProgram.mk image (fixed.activate slot address).1 foreign).Replaces objects tables
            (fallback symbol) (substitute symbol))
    : (LoadedProgram.mk image (fixed.activate slot address).1 foreign).Replaces objects tables
        (Resolver.withTrampolines table fallback symbol)
        (Resolver.relinked table image name mutant substitute symbol) := by
  have leads :=
    (target?_own _ symbol).trans (slotTarget?_activate complete found address foreign symbol)
  unfold Resolver.withTrampolines Resolver.withSlots Resolver.relinked
  cases own : table.find? symbol with
  | none =>
      have different : symbol ≠ name := by
        rintro rfl
        have moved := TrampolineTable.find?_of_fixup complete symbol
        simp [found, own] at moved
      simpa [different] using replaces own
  | some unfixed =>
      by_cases same : symbol = name
      · simp only [same, if_true] at leads ⊢
        exact .direct leads lies
      · obtain ⟨original, there⟩ := Option.isSome_iff_exists.mp
          ((TrampolineTable.fixup_of_none complete).2 unfixed (TrampolineTable.mem_of_find? own))
        obtain ⟨body, inside, -⟩ := (Image.link_meaning linked).1.meaning?_of_address there
        simp only [same, if_false, own, Option.bind_some, there] at leads
        simpa [same, there, inside] using .direct leads inside

/-- Every name leads to the same code, whether by way of slots with a mutant in one of them or
after linking anew. A defined name means its definition in both images, and a referenced name what
the resolvers say.
-/
theorem callee_activate_eq_relinked {own : TrampolineTable} {others : List TrampolineTable}
    (linked : Image.link objects (.withTrampolines table fallback) = .ok image)
    (complete : table.fixup image.address? = (fixed, none))
    (found : fixed.find? name = some slot) (lies : image.function? address.raw = some mutant)
    (replaces
      : ∀ symbol,
          Needs objects symbol
          → table.find? symbol = none
          → (LoadedProgram.mk image (fixed.activate slot address).1 foreign).Replaces objects
              (own :: others) (fallback symbol) (substitute symbol))
    (again
      : Image.link objects (.relinked table image name mutant substitute) = .ok relinked)
    (other : String)
    : (LoadedProgram.mk image (fixed.activate slot address).1 foreign).callee (.symbol other)
      = (LoadedProgram.mk relinked own others).callee (.symbol other) := by
  refine callee_of_replaces linked again ?_
  rw [(Image.link_meaning again).2]
  dsimp only
  rw [(Image.link_meaning linked).2]
  unfold Image.linkedMeaning
  cases defined : (Image.definitions objects).find? (·.2.symbol == other) with
  | some definition => exact .function _
  | none =>
      by_cases referenced : other ∈ objects.flatMap (·.references)
      · have needs : Needs objects other := {
          referenced := List.mem_flatMap.mp referenced
          undefined := Image.find?_definitions_eq_none.mp defined
        }
        simpa only [referenced, if_true, Option.map_none, Option.none_or] using
          replaces_relinked linked complete found lies (replaces other needs)
      · simpa only [referenced, if_false, Option.map_none, Option.none_or] using .missing

end

/-- Activating a mutant is the same as linking it in the place of its function: all calls by name
end alike at every depth, with the same answer or fault, when every other slot of the table leads to
its own function and code calls by name only. The resolver of the new image agrees with the first
one but for names of slots. Those of the table have the code of their functions, or the mutant. The
fallback, where it is asked, may hand out slots as well, of this table or of others in whatever
state; their names have the code that the slots lead to, or keep slots that lead nowhere or to a
definition. Without such slots the fallback stays as it is. With a function in its own slot the
trampolines go unnoticed.
-/
theorem call_activate_eq_relinked (objects : List ObjectFile) (table fixed : TrampolineTable)
    (foreign : List TrampolineTable) (fallback substitute : Resolver) (image : Image)
    (name : String) (slot : Slot) (address : Address) (mutant : Body) (own : TrampolineTable)
    (others : List TrampolineTable)
    (linked : Image.link objects (.withTrampolines table fallback) = .ok image)
    (complete : table.fixup image.address? = (fixed, none))
    (registered : fixed.find name = .ok slot)
    (lies : image.function? address.raw = some mutant)
    (named : ∀ body ∈ image.functions, body.CallsOnly CallTarget.Named)
    (replaces
      : ∀ symbol,
          Needs objects symbol
          → table.find? symbol = none
          → (LoadedProgram.mk image (fixed.activate slot address).1 foreign).Replaces objects
              (own :: others) (fallback symbol) (substitute symbol))
    : ∃ relinked,
        Image.link objects (.relinked table image name mutant substitute) = .ok relinked
        ∧ ∀ depth symbol args,
            (LoadedProgram.mk image (fixed.activate slot address).1 foreign).callWithin depth
                (.symbol symbol) args
              = (LoadedProgram.mk relinked own others).callWithin depth (.symbol symbol) args := by
  have found := TrampolineTable.find_eq_ok_iff.mp registered
  obtain ⟨relinked, again⟩ := Image.link_isOk linked
  refine ⟨relinked, again, fun depth symbol args => ?_⟩
  exact callWithin_eq_of_callee named
    (callee_activate_eq_relinked linked complete found lies replaces again) depth symbol args

end LoadedProgram

-----------------------------------------------------------------------------------------
-- Slots of two tables
-----------------------------------------------------------------------------------------

namespace Sample.TwoTables

open Single (source slot)

/-- A function with a slot and a mutant of it. Besides, the code calls a function of the host by way
of a slot of another table.
-/
def objects : List ObjectFile :=
  [
    {
      name := "main.o"
      definitions :=
        [
          ⟨"one", .const 1⟩,
          ⟨"mutant", .const 2⟩,
          ⟨"main", .wrapping .add (.call "_one_trampoline" []) (.call "_host_trampoline" [])⟩
        ]
      references := ["_one_trampoline", "host", "_host_trampoline"]
    }
  ]

/-- The other table, with its slot at the function of the host. -/
def hostTable : TrampolineTable :=
  {
    slots :=
      [
        {
          name := "_host_trampoline"
          function := "host"
          target := some (.ofIndex 3)
          fixup := some (.ofIndex 3)
        }
      ]
  }

/-- The slots of the other table and the functions of the host. -/
def fallback : Resolver :=
  .withSlots ({ table := 1, name := · }) hostTable
    (.native {} { functions := [("host", .const 7)] })

def image : Image :=
  {
    functions :=
      [
        .const 1,
        .const 2,
        .wrapping .add (.call "_one_trampoline" []) (.call "_host_trampoline" []),
        .const 7
      ]
    symbols :=
      [
        ("one", .function (.ofIndex 0)),
        ("mutant", .function (.ofIndex 1)),
        ("main", .function (.ofIndex 2)),
        ("_one_trampoline", .slot (.own "_one_trampoline")),
        ("host", .function (.ofIndex 3)),
        ("_host_trampoline", .slot { table := 1, name := "_host_trampoline" })
      ]
  }

/-- The program with the mutant in the slot of its function. -/
def program : LoadedProgram :=
  {
    image
    trampolines := (TrampolineTable.activate { slots := [slot] } slot (.ofIndex 1)).1
    foreign := [hostTable]
  }

/-- The slot of the other table leads to the function of the host. -/
theorem leads_of_fallback {symbol : String} {handle : SlotRef}
    (answer : fallback symbol = some (.slot handle))
    : (program.target? handle).bind (program.image.function? ·.raw) = some (.const 7) := by
  unfold fallback Resolver.withSlots at answer
  split at answer
  · rename_i found
    obtain rfl : "_host_trampoline" = symbol := by
      simpa [hostTable, TrampolineTable.find?] using found
    obtain rfl : _ = handle := by simpa using answer
    rfl
  · simp [Resolver.native] at answer

/-- No slot is left when object files are linked anew with code in the place of both slots. -/
theorem call_activate_eq_call_relinked
    : Image.link objects (.withTrampolines source.emptyTable fallback) = .ok image
      ∧ source.emptyTable.fixup image.address? = ({ slots := [slot] }, none)
      ∧ ∃ relinked,
          Image.link objects
              (.relinked source.emptyTable image "_one_trampoline" (.const 2)
                (fallback.withoutSlots program))
            = .ok relinked
          ∧ ∀ depth symbol args,
              program.callWithin depth (.symbol symbol) args
              = (LoadedProgram.mk relinked {} []).callWithin depth (.symbol symbol) args := by
  have linked
      : Image.link objects (.withTrampolines source.emptyTable fallback) = .ok image := by
    rfl
  have complete : source.emptyTable.fixup image.address? = ({ slots := [slot] }, none) := by
    decide
  have named : ∀ body ∈ image.functions, body.CallsOnly CallTarget.Named := by
    simp [image, Body.CallsOnly, Body.AllCallOnly, CallTarget.Named]
  exact ⟨linked, complete,
    LoadedProgram.call_activate_eq_relinked _ _ _ _ _ _ _ _ _ _ _ _ _ linked complete (by decide)
      rfl named fun symbol _ _ =>
        LoadedProgram.replaces_withoutSlots fun handle answer =>
          .inl ⟨_, leads_of_fallback answer⟩⟩

/-- The slot of the other table may not stay: in the new image it leads to the mutant. -/
example
    : ∃ relinked,
        Image.link objects (.relinked source.emptyTable image "_one_trampoline" (.const 2) fallback)
          = .ok relinked
        ∧ (program.callWithin 1 (.symbol "_host_trampoline") [] {}).1 = .ok 7
        ∧ ((LoadedProgram.mk relinked {} [hostTable]).callWithin 1 (.symbol "_host_trampoline") []
            {}).1
          = .ok 2 :=
  ⟨_, rfl, rfl, rfl⟩

end Sample.TwoTables

end MutationTesting
