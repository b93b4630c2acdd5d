import MutationTesting.Proofs.Linking.Calls
import MutationTesting.Proofs.Linking.Duplicates
import MutationTesting.Sample.Single

/-! What linking binds. A definition of an object file counts before everything else; a reference
without one goes to a slot, to an override or to the process, in this order, and is noted once when
none of them has it. Functions lie side by side, so that an address tells which function is called.
-/

namespace MutationTesting

-----------------------------------------------------------------------------------------
-- Addresses
-----------------------------------------------------------------------------------------

/-- Functions lie at multiples of the alignment behind the base. -/
theorem Address.index?_eq_some_iff {raw index : Nat}
    : Address.index? raw = some index ↔ raw = Address.base + Address.alignment * index := by
  unfold index? base alignment
  split <;> simp only [Option.some.injEq, reduceCtorEq, false_iff] <;> omega

namespace LoadedProgram

variable {program : LoadedProgram}

/-- A call of the address of a function runs this function, with nested calls one level deeper. -/
theorem callWithin_address {index : Nat} {body : Body}
    (there : program.image.functions[index]? = some body) (depth : Nat) (args : List Int64)
    : program.callWithin (depth + 1) (.address (Address.base + Address.alignment * index)) args
      = body.eval (program.callWithin depth) args := by
  refine callWithin_of_callee ?_ depth args
  have position : Address.index? (Address.base + Address.alignment * index) = some index :=
    Address.index?_eq_some_iff.mpr rfl
  simp only [callee, bodyAt, Image.function?, position, Option.bind_some, there]

/-- A call of an address without a function faults. -/
theorem callWithin_nowhere {raw : Nat}
    (nowhere
      : ∀ index < program.image.functions.length,
          raw ≠ Address.base + Address.alignment * index)
    (depth : Nat) (args : List Int64)
    : program.callWithin (depth + 1) (.address raw) args = Exec.fault (.invalidAddress raw) := by
  have empty : program.image.function? raw = none := by
    rw [Image.function?, Option.bind_eq_none_iff]
    intro index position
    rw [List.getElem?_eq_none_iff]
    by_contra inside
    exact nowhere index (Nat.lt_of_not_le inside) (Address.index?_eq_some_iff.mp position)
  simp only [callWithin, callee, bodyAt, empty]

end LoadedProgram

namespace Image

/-- Names of functions have addresses in the image, and no two of them have the same. -/
structure Separate (image : Image) : Prop where
  inside
    : ∀ name address,
        image.binding? name = some (.function address)
        → ∃ index < image.functions.length, address = .ofIndex index
  apart
    : ∀ name other address,
        image.binding? name = some (.function address)
        → image.binding? other = some (.function address)
        → name = other

/-- The address of a function that is placed is not taken, since it lies behind all others. -/
theorem Separate.place {image : Image} (separate : image.Separate) (symbol : String) (body : Body)
    : (image.place symbol body).Separate := by
  have bindings (name : String) (address : Address)
      (bound : (image.place symbol body).binding? name = some (.function address))
      : image.binding? name = some (.function address)
        ∨ name = symbol ∧ address = .ofIndex image.functions.length := by
    rw [binding?_place] at bound
    cases old : image.binding? name with
    | some binding => exact .inl (by simpa [old] using bound)
    | none =>
        refine .inr ?_
        rw [old, Option.none_or] at bound
        split at bound
        · rename_i same
          exact ⟨same, (Binding.function.inj (Option.some.inj bound)).symm⟩
        · contradiction
  have behind (name : String)
      : image.binding? name ≠ some (.function (.ofIndex image.functions.length)) := by
    intro bound
    obtain ⟨index, inside, same⟩ := separate.inside name _ bound
    have raws := congrArg Address.raw same
    simp only [Address.ofIndex, Address.alignment] at raws
    omega
  refine ⟨fun name address bound => ?_, fun name other address bound boundToo => ?_⟩
  · have longer : (image.place symbol body).functions.length = image.functions.length + 1 := by
      simp [Image.place]
    rw [longer]
    rcases bindings name address bound with old | ⟨-, rfl⟩
    · obtain ⟨index, inside, same⟩ := separate.inside name address old
      exact ⟨index, Nat.lt_succ_of_lt inside, same⟩
    · exact ⟨image.functions.length, Nat.lt_succ_self _, rfl⟩
  · rcases bindings name address bound with old | ⟨rfl, rfl⟩
    · rcases bindings other address boundToo with oldToo | ⟨-, rfl⟩
      · exact separate.apart name other address old oldToo
      · exact absurd old (behind name)
    · rcases bindings other _ boundToo with oldToo | ⟨rfl, -⟩
      · exact absurd oldToo (behind other)
      · rfl

/-- Resolving a reference takes no address away. -/
theorem Separate.resolve {image : Image} (separate : image.Separate) (resolver : Resolver)
    (symbol : String)
    : (image.resolve resolver symbol).Separate := by
  unfold Image.resolve
  split
  · exact separate
  · split
    · exact separate.place symbol _
    · rename_i handle _
      have bindings (name : String) (address : Address)
          (bound
            : (image.symbols ++ [(symbol, Binding.slot handle)]).lookup name
              = some (.function address))
          : image.binding? name = some (.function address) := by
        rw [binding?_append] at bound
        cases old : image.binding? name with
        | some binding => simpa [old] using bound
        | none =>
            rw [old, Option.none_or] at bound
            split at bound <;> cases bound
      refine ⟨fun name address bound => ?_, fun name other address bound boundToo => ?_⟩
      · exact separate.inside name address (bindings name address bound)
      · exact separate.apart name other address (bindings name address bound)
          (bindings other address boundToo)
    · exact ⟨separate.inside, separate.apart⟩

-----------------------------------------------------------------------------------------
-- Linked images
-----------------------------------------------------------------------------------------

/-- The image of all definitions, before references are resolved. -/
def placed (objects : List ObjectFile) : Image :=
  (definitions objects).foldl
    (fun image definition => image.place definition.2.symbol definition.2.body) {}

theorem eq_of_link {objects : List ObjectFile} {resolver : Resolver} {image : Image}
    (linked : Image.link objects resolver = .ok image)
    : image = (objects.flatMap (·.references)).foldl (Image.resolve resolver) (placed objects) := by
  unfold Image.link at linked
  split at linked
  · contradiction
  · exact (Except.ok.inj linked).symm

/-- A linked image has every property that the empty image has, and that is kept when a definition
is placed and when a reference is resolved.
-/
@[elab_as_elim]
theorem link_induction {objects : List ObjectFile} {resolver : Resolver} {image : Image}
    (linked : Image.link objects resolver = .ok image) {motive : Image → Prop} (empty : motive {})
    (place
      : ∀ image,
          motive image
          → ∀ definition ∈ definitions objects,
              motive (image.place definition.2.symbol definition.2.body))
    (resolve
      : ∀ image,
          motive image
          → ∀ symbol ∈ objects.flatMap (·.references), motive (image.resolve resolver symbol))
    : motive image := by
  rw [eq_of_link linked]
  exact List.foldlRecOn _ _ (List.foldlRecOn _ _ empty place) resolve

/-- Definitions are placed one behind the other. -/
theorem functions_placeAll (image : Image) (definitions : List (String × Definition))
    : (definitions.foldl
        (fun image definition => image.place definition.2.symbol definition.2.body)
        image).functions
      = image.functions ++ definitions.map (·.2.body) := by
  induction definitions generalizing image with
  | nil => simp
  | cons definition rest ih =>
      rw [List.foldl_cons, ih]
      simp [place]

/-- Resolving references moves no function; what the resolver has comes behind them all. -/
theorem functions_resolveAll (resolver : Resolver) (image : Image) (references : List String)
    : image.functions <+: (references.foldl (Image.resolve resolver) image).functions := by
  induction references generalizing image with
  | nil => exact List.prefix_refl _
  | cons symbol rest ih =>
      refine List.IsPrefix.trans ?_ (ih _)
      unfold resolve
      split
      · exact List.prefix_refl _
      · split
        · exact List.prefix_append ..
        · exact List.prefix_refl _
        · exact List.prefix_refl _

/-- All functions that are defined come first in a linked image, in the order of their definitions.
-/
theorem functions_of_link {objects : List ObjectFile} {resolver : Resolver} {image : Image}
    (linked : Image.link objects resolver = .ok image)
    : (definitions objects).map (·.2.body) <+: image.functions := by
  have first : (placed objects).functions = (definitions objects).map (·.2.body) :=
    functions_placeAll {} _
  rw [eq_of_link linked, ← first]
  exact functions_resolveAll resolver (placed objects) _

/-- Below what resolvers have, the same functions lie in all images of the same object files. -/
theorem function?_eq_of_link {objects : List ObjectFile} {resolver other : Resolver}
    {left right : Image} (linked : Image.link objects resolver = .ok left)
    (linkedToo : Image.link objects other = .ok right) {raw : Nat}
    (defined : raw < (Address.ofIndex (definitions objects).length).raw)
    : left.function? raw = right.function? raw := by
  obtain ⟨rest, functions⟩ := functions_of_link linked
  obtain ⟨others, functionsToo⟩ := functions_of_link linkedToo
  unfold function?
  rw [← functions, ← functionsToo]
  cases position : Address.index? raw with
  | none => rfl
  | some index =>
      have inside : index < ((definitions objects).map (·.2.body)).length := by
        rw [Address.index?_eq_some_iff.mp position] at defined
        simp only [Address.ofIndex, Address.alignment] at defined
        rw [List.length_map]
        omega
      simp only [Option.bind_some, List.getElem?_append_left inside]

/-- In a linked image no two names of functions share an address. -/
theorem link_separate {objects : List ObjectFile} {resolver : Resolver} {image : Image}
    (linked : Image.link objects resolver = .ok image)
    : image.Separate := by
  have empty : ({} : Image).Separate := by
    refine ⟨fun _ _ bound => ?_, fun _ _ _ bound => ?_⟩ <;> cases bound
  refine link_induction linked empty (fun _ separate definition _ => ?_)
    fun _ separate symbol _ => ?_
  · exact separate.place definition.2.symbol definition.2.body
  · exact separate.resolve resolver symbol

/-- Nothing is known that the name could stand for. -/
def lacks (image : Image) (resolver : Resolver) (name : String) : Bool :=
  (image.meaning? name).isNone && (resolver name).isNone

/-- Resolving a reference does not change what is known about names. -/
theorem Sound.lacks_resolve {resolver : Resolver} {image : Image} (sound : image.Sound)
    (notes : image.NotesUnknown resolver) (symbol : String)
    : (image.resolve resolver symbol).lacks resolver = image.lacks resolver := by
  funext name
  unfold lacks
  rw [(sound.resolve notes symbol).2.2 name]
  by_cases same : name = symbol
  · subst same
    cases image.meaning? name <;> cases resolver name <;> simp
  · simp [same]

/-- A reference is noted if nothing is known about it and it is not noted yet. -/
theorem Sound.unresolved_resolve {image : Image} (sound : image.Sound) (resolver : Resolver)
    (symbol : String)
    : (image.resolve resolver symbol).unresolved
      = if image.lacks resolver symbol = true ∧ symbol ∉ image.unresolved then
          image.unresolved ++ [symbol]
        else
          image.unresolved := by
  have bound := sound.meaning?_eq_none symbol
  unfold Image.resolve lacks
  cases binding : image.binding? symbol with
  | some _ =>
      rw [binding] at bound
      simp [bound]
  | none =>
      rw [binding] at bound
      by_cases noted : symbol ∈ image.unresolved
      · simp [noted]
      · cases resolved : resolver symbol with
        | none => simp [noted, bound]
        | some resolution => cases resolution <;> simp [noted, Image.place]

/-- References are noted in the order in which they come first, by induction on them. -/
theorem Sound.unresolved_resolveAll {resolver : Resolver} {image : Image} (sound : image.Sound)
    (notes : image.NotesUnknown resolver) (once : image.unresolved.eraseDups = image.unresolved)
    (references : List String)
    : (references.foldl (Image.resolve resolver) image).unresolved
      = (image.unresolved ++ references.filter (image.lacks resolver)).eraseDups := by
  induction references generalizing image with
  | nil => rw [List.filter_nil, List.append_nil, once, List.foldl_nil]
  | cons symbol rest ih =>
      obtain ⟨next, noted, -⟩ := sound.resolve notes symbol
      have grows := sound.unresolved_resolve resolver symbol
      rw [List.foldl_cons, List.filter_cons]
      cases unknown : image.lacks resolver symbol with
      | false =>
          have same : (image.resolve resolver symbol).unresolved = image.unresolved := by
            simpa [unknown] using grows
          rw [ih next noted (same ▸ once), sound.lacks_resolve notes, same]
          rfl
      | true =>
          by_cases seen : symbol ∈ image.unresolved
          · -- Then the symbol is noted already and drops out on the right as well.
            have same : (image.resolve resolver symbol).unresolved = image.unresolved := by
              simpa [seen] using grows
            rw [ih next noted (same ▸ once), sound.lacks_resolve notes, same, if_pos rfl,
              List.eraseDups_append, List.eraseDups_append, List.cons_removeAll]
            simp [seen]
          · have longer : (image.resolve resolver symbol).unresolved
                = image.unresolved ++ [symbol] := by
              simpa [unknown, seen] using grows
            have still : (image.unresolved ++ [symbol]).eraseDups
                = image.unresolved ++ [symbol] := by
              rw [List.eraseDups_append, once, List.cons_removeAll]
              simp [seen, List.eraseDups_cons]
            rw [ih next noted (longer.symm ▸ still), sound.lacks_resolve notes, longer, if_pos rfl,
              List.append_assoc]
            rfl

/-- A name has no definition exactly if no object file defines it. -/
theorem find?_definitions_eq_none {objects : List ObjectFile} {name : String}
    : (definitions objects).find? (·.2.symbol == name) = none
      ↔ ∀ object ∈ objects, object.defines name = false := by
  simp only [List.find?_eq_none, definitions, List.mem_flatMap, List.mem_map, ObjectFile.defines,
    List.any_eq_false]
  constructor
  · intro undefined object member definition inside
    exact undefined _ ⟨object, member, definition, inside, rfl⟩
  · rintro undefined _ ⟨object, member, definition, inside, rfl⟩
    exact undefined object member definition inside

/-- A reference means nothing exactly if it has no definition and the resolver does not know it. -/
theorem linkedMeaning_eq_none {objects : List ObjectFile} {resolver : Resolver} {name : String}
    (referenced : name ∈ objects.flatMap (·.references))
    : linkedMeaning objects resolver name = none
      ↔ (definitions objects).find? (·.2.symbol == name) = none ∧ resolver name = none := by
  simp only [linkedMeaning, referenced, if_true, Option.or_eq_none_iff, Option.map_eq_none_iff]

/-- The references that mean nothing are noted, each once and in the order in which they come first.
-/
theorem unresolved_of_link {objects : List ObjectFile} {resolver : Resolver} {image : Image}
    (linked : Image.link objects resolver = .ok image)
    : image.unresolved
      = ((objects.flatMap (·.references)).filter
          (linkedMeaning objects resolver · |>.isNone)).eraseDups := by
  have empty : ({} : Image).Sound := by
    intro name address bound
    cases bound
  obtain ⟨sound, unnoted, defined⟩ := empty.placeAll (definitions objects)
  change (placed objects).Sound at sound
  change (placed objects).unresolved = [] at unnoted
  have notes : (placed objects).NotesUnknown resolver := by
    intro name noted
    rw [unnoted] at noted
    cases noted
  rw [eq_of_link linked, sound.unresolved_resolveAll notes (by rw [unnoted]; rfl), unnoted,
    List.nil_append]
  refine congrArg List.eraseDups (List.filter_congr fun name referenced => ?_)
  have means : (placed objects).meaning? name
      = ((definitions objects).find? (·.2.symbol == name)).map (.function ·.2.body) :=
    defined name
  rw [Bool.eq_iff_iff, Option.isNone_iff_eq_none, linkedMeaning_eq_none referenced]
  simp [lacks, means]

end Image

-----------------------------------------------------------------------------------------
-- Linked programs
-----------------------------------------------------------------------------------------

/-- An object file references the name, and none defines it. -/
structure Needs (objects : List ObjectFile) (name : String) : Prop where
  referenced : ∃ object ∈ objects, name ∈ object.references
  undefined : ∀ object ∈ objects, object.defines name = false

/-- The name is bound to an address, and calling this address runs the code. -/
def LoadedProgram.BindsCode (program : LoadedProgram) (name : String) (body : Body) : Prop :=
  ∃ address,
    program.image.binding? name = some (.function address)
    ∧ ∀ depth args,
        program.callWithin (depth + 1) (.address address.raw) args
        = body.eval (program.callWithin depth) args

/-- A name that means some code is bound to it. -/
theorem LoadedProgram.bindsCode_of_meaning {program : LoadedProgram}
    (sound : program.image.Sound) {name : String} {body : Body}
    (means : program.image.meaning? name = some (.function body))
    : program.BindsCode name body := by
  unfold Image.meaning? at means
  cases bound : program.image.binding? name with
  | none => simp [bound] at means
  | some binding =>
      cases binding with
      | slot handle => simp [bound] at means
      | function address =>
          obtain ⟨there, found⟩ := sound name address bound
          obtain rfl : there = body := by simpa [bound, found] using means
          refine ⟨address, bound, LoadedProgram.callWithin_of_callee ?_⟩
          simp only [callee, bodyAt, found]

/-- A name that means a slot is bound to it. -/
theorem Image.binding?_of_slot {image : Image} {name : String} {handle : SlotRef}
    (means : image.meaning? name = some (.slot handle))
    : image.binding? name = some (.slot handle) := by
  unfold meaning? at means
  cases bound : image.binding? name with
  | none => simp [bound] at means
  | some binding =>
      cases binding with
      | slot other =>
          obtain rfl : other = handle := by simpa [bound] using means
          rfl
      | function address => simp [bound] at means

/-- A reference without a definition means what the resolver says. -/
theorem Needs.linkedMeaning {objects : List ObjectFile} {name : String}
    (needs : Needs objects name) (resolver : Resolver)
    : Image.linkedMeaning objects resolver name = resolver name := by
  have listed : name ∈ objects.flatMap (·.references) := List.mem_flatMap.mpr needs.referenced
  rw [Image.linkedMeaning, Image.find?_definitions_eq_none.mpr needs.undefined, if_pos listed]
  rfl

namespace Runner

/-- The name has no definition, no slot and no function of the host. -/
def lacks (runner : Runner) (objects : List ObjectFile) (table : TrampolineTable) (name : String)
    : Bool :=
  objects.all (!·.defines name)
    && (table.find? name).isNone
    && (runner.overrides.get? name).isNone
    && (runner.process.get? name).isNone

/-- What the names of a linked program are bound to. -/
structure Binds (runner : Runner) (objects : List ObjectFile) (table : TrampolineTable)
    (program : LoadedProgram)
    : Prop where
  /-- A definition counts before everything else. -/
  definition
    : ∀ object ∈ objects,
        ∀ definition ∈ object.definitions,
          program.BindsCode definition.symbol definition.body
  /-- A reference goes to the slot that the table has for its name, and calls to where it points. -/
  slot
    : ∀ name slot,
        Needs objects name
        → table.find? name = some slot
        → program.image.binding? name = some (.slot (.own name))
          ∧ program.callee (.symbol name)
            = match slot.target with
              | some address => program.bodyAt address.raw
              | none => .error (.emptyTrampoline name)
  /-- Without a slot it goes to an override. -/
  override
    : ∀ name body,
        Needs objects name
        → table.find? name = none
        → runner.overrides.get? name = some body
        → program.BindsCode name body
  /-- Without an override it goes to the process. -/
  process
    : ∀ name body,
        Needs objects name
        → table.find? name = none
        → runner.overrides.get? name = none
        → runner.process.get? name = some body
        → program.BindsCode name body
  /-- Otherwise it is noted, once for all references to it and in the order of the first ones. -/
  unresolved
    : program.image.unresolved
      = ((objects.flatMap (·.references)).filter (runner.lacks objects table)).eraseDups
  missing : ∀ name, runner.lacks objects table name = true → program.image.binding? name = none
  /-- What the slots and the host have is not bound unless it is referenced. -/
  unused
    : ∀ name,
        (∀ object ∈ objects, object.defines name = false ∧ name ∉ object.references)
        → program.image.binding? name = none
  /-- No two names of functions share an address. -/
  apart
    : ∀ name other address,
        program.image.address? name = some address
        → program.image.address? other = some address
        → name = other
  /-- The address of a function is told by its position, and no other address is one. -/
  address
    : ∀ index body,
        program.image.functions[index]? = some body
        → ∀ depth args,
            program.callWithin (depth + 1) (.address (0x1000 + 16 * index)) args
            = body.eval (program.callWithin depth) args
  nowhere
    : ∀ raw,
        (∀ index < program.image.functions.length, raw ≠ 0x1000 + 16 * index)
        → ∀ depth args,
            program.callWithin (depth + 1) (.address raw) args = Exec.fault (.invalidAddress raw)

theorem lacks_iff {runner : Runner} {objects : List ObjectFile} {table : TrampolineTable}
    {name : String}
    : runner.lacks objects table name = true
      ↔ (∀ object ∈ objects, object.defines name = false)
        ∧ runner.resolver table name = none := by
  simp only [lacks, resolver, Resolver.withTrampolines, Resolver.withSlots, Resolver.native,
    Bool.and_eq_true, List.all_eq_true, Bool.not_eq_true', Option.isNone_iff_eq_none]
  cases table.find? name <;> cases runner.overrides.get? name <;> simp

/-- The names that are noted as unresolved, in a linked image. -/
theorem unresolved_of_link {runner : Runner} {objects : List ObjectFile} {table : TrampolineTable}
    {image : Image} (linked : Image.link objects (runner.resolver table) = .ok image)
    : image.unresolved
      = ((objects.flatMap (·.references)).filter (runner.lacks objects table)).eraseDups := by
  rw [Image.unresolved_of_link linked]
  refine congrArg List.eraseDups (List.filter_congr fun name referenced => ?_)
  rw [Bool.eq_iff_iff, lacks_iff, ← Image.find?_definitions_eq_none, Option.isNone_iff_eq_none,
    Image.linkedMeaning_eq_none referenced]

/-- Object files that define nothing twice are linked, and then every name is bound as the slots and
the host functions come in their order.
-/
theorem link_binds (runner : Runner) {objects : List ObjectFile}
    (distinct : (Image.symbolsOf (Image.definitions objects)).Nodup) (table : TrampolineTable)
    : ∃ program,
        runner.link objects table = .ok program
        ∧ program.trampolines = table
        ∧ runner.Binds objects table program := by
  obtain ⟨image, linked⟩ : ∃ image, Image.link objects (runner.resolver table) = .ok image := by
    rcases Image.link_cases objects (runner.resolver table) with ⟨-, linked⟩ | ⟨error, twice, -⟩
    · exact linked
    · exact absurd distinct twice.not_nodup
  obtain ⟨sound, means⟩ := Image.link_meaning linked
  refine ⟨{ image, trampolines := table }, ?_, rfl, ?_⟩
  · unfold link
    rw [linked]
    rfl
  have code {name : String} {body : Body}
      (own : Image.linkedMeaning objects (runner.resolver table) name = some (.function body))
      : LoadedProgram.BindsCode { image, trampolines := table } name body :=
    LoadedProgram.bindsCode_of_meaning sound ((means name).trans own)
  have unbound {name : String}
      (nothing : Image.linkedMeaning objects (runner.resolver table) name = none)
      : image.binding? name = none :=
    (sound.meaning?_eq_none name).mp ((means name).trans nothing)
  exact {
    definition := fun object member definition inside =>
      code (Image.linkedMeaning_of_mem distinct
        (List.mem_flatMap.mpr ⟨object, member, List.mem_map_of_mem inside⟩))
    slot := fun name slot needs registered => by
      have own : runner.resolver table name = some (.slot (.own name)) := by
        simp [resolver, Resolver.withTrampolines, Resolver.withSlots, registered]
      have meaning : image.meaning? name = some (.slot (.own name)) :=
        ((means name).trans (needs.linkedMeaning _)).trans own
      refine ⟨Image.binding?_of_slot meaning, ?_⟩
      rw [LoadedProgram.callee_symbol sound, meaning]
      cases target : slot.target <;>
        simp only [LoadedProgram.target?_own, LoadedProgram.slotTarget?, registered,
          Option.bind_some, target]
    override := fun name body needs free found => by
      refine code ((needs.linkedMeaning _).trans ?_)
      simp [resolver, Resolver.withTrampolines, Resolver.withSlots, Resolver.native, free, found]
    process := fun name body needs free nothing found => by
      refine code ((needs.linkedMeaning _).trans ?_)
      simp [resolver, Resolver.withTrampolines, Resolver.withSlots, Resolver.native, free, nothing,
        found]
    unresolved := unresolved_of_link linked
    missing := fun name lacking => by
      obtain ⟨undefined, unknown⟩ := lacks_iff.mp lacking
      apply unbound
      rw [Image.linkedMeaning, Image.find?_definitions_eq_none.mpr undefined, unknown, ite_self]
      rfl
    unused := fun name idle => by
      apply unbound
      have unreferenced : name ∉ objects.flatMap (·.references) := by
        intro listed
        obtain ⟨object, member, inside⟩ := List.mem_flatMap.mp listed
        exact (idle object member).2 inside
      rw [Image.linkedMeaning,
        Image.find?_definitions_eq_none.mpr fun object member => (idle object member).1,
        if_neg unreferenced]
      rfl
    apart := fun name other address found foundToo =>
      (Image.link_separate linked).apart name other address (Image.binding?_of_address found)
        (Image.binding?_of_address foundToo)
    address := fun index body there => LoadedProgram.callWithin_address there
    nowhere := fun raw none => LoadedProgram.callWithin_nowhere none
  }

section

open Sample.Single

/-- Two object files that need something from everywhere. The override of a defined name plays no
part, nor does a function of the process that nobody needs.
-/
theorem sample_link_binds
    : let runner : Runner :=
        {
          overrides := { functions := [("one", .const 5), ("print", .const 6)] }
          process := { functions := [("print", .const 7), ("exit", .const 8), ("sleep", .const 9)] }
        }
      let objects : List ObjectFile :=
        [
          { name := "a.o", references := ["lost", "one", "_one_trampoline", "print"] },
          {
            name := "b.o"
            definitions := [⟨"one", .const 1⟩]
            references := ["gone", "lost", "exit"]
          }
        ]
      ∃ program,
        runner.link objects { slots := [slot] } = .ok program
        ∧ program.BindsCode "one" (.const 1)
        ∧ program.image.binding? "_one_trampoline" = some (.slot (.own "_one_trampoline"))
        ∧ program.BindsCode "print" (.const 6)
        ∧ program.BindsCode "exit" (.const 8)
        ∧ program.image.unresolved = ["lost", "gone"]
        ∧ program.image.binding? "lost" = none
        ∧ program.image.binding? "sleep" = none
        ∧ ∀ depth args,
            program.callWithin (depth + 1) (.address 0x1008) args
            = Exec.fault (.invalidAddress 0x1008) := by
  intro runner objects
  have distinct : (Image.symbolsOf (Image.definitions objects)).Nodup := by decide
  obtain ⟨program, linked, -, binds⟩ := runner.link_binds distinct { slots := [slot] }
  have needs {name : String}
      (needed
        : (∃ object ∈ objects, name ∈ object.references)
          ∧ ∀ object ∈ objects, object.defines name = false)
      : Needs objects name :=
    ⟨needed.1, needed.2⟩
  refine ⟨program, linked, ?_, ?_, ?_, ?_, binds.unresolved.trans (by decide),
    binds.missing _ (by decide), binds.unused _ (by decide), binds.nowhere _ ?_⟩
  · exact binds.definition objects[1] (by simp [objects]) ⟨"one", .const 1⟩ (by simp [objects])
  · exact (binds.slot _ slot (needs (by decide)) rfl).1
  · exact binds.override _ _ (needs (by decide)) (by decide) rfl
  · exact binds.process _ _ (needs (by decide)) (by decide) rfl rfl
  · omega

end

end Runner

end MutationTesting
