import MutationTesting.Linking.LoadedProgram

/-! What the names of a linked image mean: the code of the first definition, or else what the
resolver says about a name that is referenced. Where the code lies in the image plays no part.
-/

namespace MutationTesting

-----------------------------------------------------------------------------------------
-- Addresses and names
-----------------------------------------------------------------------------------------

theorem Address.index?_ofIndex (index : Nat)
    : Address.index? (Address.ofIndex index).raw = some index := by
  simp [index?, ofIndex, alignment]

namespace Image

/-- The code or the slot that a name stands for. -/
def meaning? (image : Image) (name : String) : Option Resolution :=
  match image.binding? name with
  | some (.function address) => (image.function? address.raw).map .function
  | some (.slot handle) => some (.slot handle)
  | none => none

/-- Every name of a function has code. -/
def Sound (image : Image) : Prop :=
  ∀ name address,
    image.binding? name = some (.function address)
    → ∃ body, image.function? address.raw = some body

/-- A name means nothing in a sound image exactly if it is not bound. -/
theorem Sound.meaning?_eq_none {image : Image} (sound : image.Sound) (name : String)
    : image.meaning? name = none ↔ image.binding? name = none := by
  unfold meaning?
  cases bound : image.binding? name with
  | none => simp
  | some binding =>
      cases binding with
      | slot handle => simp
      | function address =>
          obtain ⟨body, found⟩ := sound name address bound
          simp [found]

/-- A name with an address is bound to the function there. -/
theorem binding?_of_address {image : Image} {name : String} {address : Address}
    (bound : image.address? name = some address)
    : image.binding? name = some (.function address) := by
  unfold address? at bound
  split at bound <;> simp_all

/-- The function of a name lies where the image has its address. -/
theorem Sound.meaning?_of_address {image : Image} (sound : image.Sound) {name : String}
    {address : Address} (bound : image.address? name = some address)
    : ∃ body,
        image.function? address.raw = some body
        ∧ image.meaning? name = some (.function body) := by
  have binding := binding?_of_address bound
  obtain ⟨body, found⟩ := sound name address binding
  exact ⟨body, found, by simp [meaning?, binding, found]⟩

theorem mem_of_function? {image : Image} {raw : Nat} {body : Body}
    (found : image.function? raw = some body)
    : body ∈ image.functions := by
  obtain ⟨index, -, there⟩ := Option.bind_eq_some_iff.mp found
  exact List.mem_of_getElem? there

-----------------------------------------------------------------------------------------
-- Placing functions
-----------------------------------------------------------------------------------------

/-- Whatever lies somewhere stays there when another function is placed. -/
theorem function?_place {image : Image} {raw : Nat} {body : Body}
    (found : image.function? raw = some body) (symbol : String) (other : Body)
    : (image.place symbol other).function? raw = some body := by
  obtain ⟨index, position, there⟩ := Option.bind_eq_some_iff.mp found
  have inside := (List.getElem?_eq_some_iff.mp there).1
  simp [function?, place, position, List.getElem?_append_left inside, there]

theorem binding?_append (image : Image) (symbol : String) (binding : Binding) (name : String)
    : (image.symbols ++ [(symbol, binding)]).lookup name
      = (image.binding? name).or (if name = symbol then some binding else none) := by
  rw [List.lookup_append, List.lookup_cons, List.lookup_nil]
  by_cases same : name = symbol
  · simp [binding?, same]
  · simp [binding?, same, beq_eq_false_iff_ne.mpr same]

theorem binding?_place (image : Image) (symbol : String) (body : Body) (name : String)
    : (image.place symbol body).binding? name
      = (image.binding? name).or
          (if name = symbol then some (.function (.ofIndex image.functions.length)) else none)
      :=
  binding?_append image symbol _ name

theorem function?_place_self (image : Image) (symbol : String) (body : Body)
    : (image.place symbol body).function? (Address.ofIndex image.functions.length).raw
      = some body := by
  simp [function?, place, Address.index?_ofIndex]

theorem Sound.place {image : Image} (sound : image.Sound) (symbol : String) (body : Body)
    : (image.place symbol body).Sound := by
  intro name address bound
  rw [binding?_place] at bound
  cases old : image.binding? name with
  | some binding =>
      obtain rfl : binding = .function address := by simpa [old] using bound
      obtain ⟨there, found⟩ := sound name address old
      exact ⟨there, function?_place found symbol body⟩
  | none =>
      obtain ⟨-, rfl⟩ : name = symbol ∧ .ofIndex image.functions.length = address := by
        simpa [old] using bound
      exact ⟨body, function?_place_self image symbol body⟩

/-- A function that is placed gives its name a meaning, unless the name has one. -/
theorem Sound.meaning?_place {image : Image} (sound : image.Sound) (symbol : String)
    (body : Body) (name : String)
    : (image.place symbol body).meaning? name
      = (image.meaning? name).or (if name = symbol then some (.function body) else none) := by
  unfold meaning?
  rw [binding?_place]
  cases old : image.binding? name with
  | some binding =>
      cases binding with
      | slot handle => rfl
      | function address =>
          obtain ⟨there, found⟩ := sound name address old
          simp [found, function?_place found]
  | none =>
      by_cases same : name = symbol <;> simp [same, function?_place_self]

-----------------------------------------------------------------------------------------
-- Resolving references
-----------------------------------------------------------------------------------------

/-- Only references that the resolver knows nothing about are noted as unresolved. -/
def NotesUnknown (image : Image) (resolver : Resolver) : Prop :=
  ∀ name ∈ image.unresolved, resolver name = none

/-- Binding a symbol to a slot keeps an image sound and gives the symbol a meaning, unless it
has one.
-/
theorem Sound.bindSlot {image : Image} (sound : image.Sound) (symbol : String)
    (handle : SlotRef)
    : let bound : Image := { image with symbols := image.symbols ++ [(symbol, .slot handle)] }
      bound.Sound
      ∧ ∀ name,
          bound.meaning? name
            = (image.meaning? name).or (if name = symbol then some (.slot handle) else none) := by
  intro bound
  have binding (name : String)
      : bound.binding? name
        = (image.binding? name).or (if name = symbol then some (.slot handle) else none) :=
    binding?_append image symbol (.slot handle) name
  refine ⟨fun name address found => ?_, fun name => ?_⟩
  · rw [binding] at found
    cases old : image.binding? name with
    | none => simp [old] at found
    | some other =>
        obtain rfl : other = .function address := by simpa [old] using found
        exact sound name address old
  · unfold meaning?
    rw [binding]
    cases old : image.binding? name with
    | none => by_cases same : name = symbol <;> simp [same]
    | some other =>
        cases other with
        | slot handle => rfl
        | function address =>
            obtain ⟨body, found⟩ := sound name address old
            have still : bound.function? address.raw = some body := found
            simp [found, still]

/-- Resolving a reference keeps an image sound and notes only what is unknown; a reference that
means nothing yet comes to mean what the resolver says.
-/
theorem Sound.resolve {resolver : Resolver} {image : Image} (sound : image.Sound)
    (notes : image.NotesUnknown resolver) (symbol : String)
    : (image.resolve resolver symbol).Sound
      ∧ (image.resolve resolver symbol).NotesUnknown resolver
      ∧ ∀ name,
          (image.resolve resolver symbol).meaning? name
            = (image.meaning? name).or (if name = symbol then resolver symbol else none) := by
  unfold Image.resolve
  split
  · rename_i known
    refine ⟨sound, notes, fun name => ?_⟩
    by_cases same : name = symbol
    · subst same
      cases means : image.meaning? name with
      | some resolution => rfl
      | none =>
          have unbound := (sound.meaning?_eq_none name).mp means
          have noted : name ∈ image.unresolved := by simpa [unbound] using known
          simp [notes name noted]
    · simp [same]
  · cases resolved : resolver symbol with
    | none =>
        refine ⟨sound, fun name noted => ?_, fun name => ?_⟩
        · rcases List.mem_append.mp noted with old | new
          · exact notes name old
          · rw [List.mem_singleton.mp new, resolved]
        · by_cases same : name = symbol <;> simp [same] <;> rfl
    | some resolution =>
        cases resolution with
        | function body => exact ⟨sound.place symbol body, notes, sound.meaning?_place symbol body⟩
        | slot handle =>
            obtain ⟨bound, means⟩ := sound.bindSlot symbol handle
            exact ⟨bound, notes, means⟩

-----------------------------------------------------------------------------------------
-- Linking
-----------------------------------------------------------------------------------------

/-- Placing definitions one after the other gives every name the meaning of its first
definition, unless it has one already. By induction on the definitions.
-/
theorem Sound.placeAll {image : Image} (sound : image.Sound)
    (definitions : List (String × Definition))
    : let placed :=
        definitions.foldl
          (fun image definition => image.place definition.2.symbol definition.2.body) image
      placed.Sound
      ∧ placed.unresolved = image.unresolved
      ∧ ∀ name,
          placed.meaning? name
            = (image.meaning? name).or
                ((definitions.find? (·.2.symbol == name)).map (.function ·.2.body)) := by
  induction definitions generalizing image with
  | nil => exact ⟨sound, rfl, fun name => by simp⟩
  | cons definition rest ih =>
      obtain ⟨placed, unresolved, means⟩ :=
        ih (sound.place definition.2.symbol definition.2.body)
      refine ⟨placed, unresolved, fun name => ?_⟩
      rw [List.foldl_cons, means, sound.meaning?_place, List.find?_cons]
      by_cases same : definition.2.symbol = name
      · cases image.meaning? name <;> simp [same]
      · simp [beq_eq_false_iff_ne.mpr same, Ne.symm same]

/-- Resolving references one after the other gives every reference without a meaning the one that
the resolver has for it. By induction on the references.
-/
theorem Sound.resolveAll {resolver : Resolver} {image : Image} (sound : image.Sound)
    (notes : image.NotesUnknown resolver) (references : List String)
    : let resolved := references.foldl (Image.resolve resolver) image
      resolved.Sound
      ∧ ∀ name,
          resolved.meaning? name
            = (image.meaning? name).or (if name ∈ references then resolver name else none) := by
  induction references generalizing image with
  | nil => exact ⟨sound, fun name => by simp⟩
  | cons symbol rest ih =>
      obtain ⟨next, noted, first⟩ := sound.resolve notes symbol
      obtain ⟨resolved, means⟩ := ih next noted
      refine ⟨resolved, fun name => ?_⟩
      rw [List.foldl_cons, means, first]
      by_cases same : name = symbol
      · subst same
        cases image.meaning? name with
        | some resolution => rfl
        | none => cases resolver name <;> simp
      · simp [same]

/-- What a name means once object files are linked: the code of its first definition, and
otherwise, when it is referenced, what the resolver says.
-/
def linkedMeaning (objects : List ObjectFile) (resolver : Resolver) (name : String)
    : Option Resolution :=
  (((definitions objects).find? (·.2.symbol == name)).map (.function ·.2.body)).or
    (if name ∈ objects.flatMap (·.references) then resolver name else none)

/-- Linking gives every name that meaning, and all functions lie where their names say. -/
theorem link_meaning {objects : List ObjectFile} {resolver : Resolver} {image : Image}
    (linked : Image.link objects resolver = .ok image)
    : image.Sound ∧ ∀ name, image.meaning? name = linkedMeaning objects resolver name := by
  unfold Image.link at linked
  cases duplicate : duplicate? [] (definitions objects) with
  | some error => simp [duplicate] at linked
  | none =>
      have same : (objects.flatMap (·.references)).foldl (Image.resolve resolver)
          ((definitions objects).foldl
            (fun image definition => image.place definition.2.symbol definition.2.body) {})
          = image := by
        simpa [duplicate] using linked
      have empty : ({} : Image).Sound := by
        intro name address bound
        simp [binding?] at bound
      obtain ⟨placed, unresolved, defined⟩ := empty.placeAll (definitions objects)
      have notes : Image.NotesUnknown _ resolver := fun name noted => by
        rw [unresolved] at noted
        simp at noted
      obtain ⟨sound, means⟩ := placed.resolveAll notes (objects.flatMap (·.references))
      subst same
      refine ⟨sound, fun name => ?_⟩
      rw [means, defined]
      rfl

end Image

end MutationTesting
