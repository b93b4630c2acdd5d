import Mathlib.Data.List.Nodup
import MutationTesting.Proofs.Linking.Meaning

/-! Linking fails exactly when some symbol is defined twice, whatever the resolver. The error is
that of the first definition whose symbol is taken, and names the object file that took it. When
linking succeeds, every definition says what its symbol means.
-/

namespace MutationTesting.Image

/-- The symbols of definitions, in their order. -/
def symbolsOf (definitions : List (String × Definition)) : List String :=
  definitions.map (·.2.symbol)

/-- Definitions as they are noted while later ones are looked at: the last one first. -/
def noted (definitions : List (String × Definition)) : List (String × String) :=
  (definitions.map fun definition => (definition.2.symbol, definition.1)).reverse

theorem noted_append (definitions : List (String × Definition)) (last : String × Definition)
    : noted (definitions ++ [last]) = (last.2.symbol, last.1) :: noted definitions := by
  simp [noted]

theorem mem_noted {definitions : List (String × Definition)} {symbol object : String}
    : (symbol, object) ∈ noted definitions
      ↔ ∃ definition, (object, definition) ∈ definitions ∧ definition.symbol = symbol := by
  simp only [noted, List.mem_reverse, List.mem_map, Prod.mk.injEq, Prod.exists]
  constructor
  · rintro ⟨_, definition, there, same, rfl⟩
    exact ⟨definition, there, same⟩
  · rintro ⟨definition, there, same⟩
    exact ⟨object, definition, there, same, rfl⟩

theorem lookup_noted_eq_none {definitions : List (String × Definition)} {symbol : String}
    : (noted definitions).lookup symbol = none ↔ symbol ∉ symbolsOf definitions := by
  rw [List.lookup_eq_none_iff]
  constructor
  · intro unseen member
    obtain ⟨⟨object, definition⟩, there, rfl⟩ := List.mem_map.mp member
    simpa using unseen _ (mem_noted.mpr ⟨definition, there, rfl⟩)
  · rintro fresh ⟨other, object⟩ member
    obtain ⟨definition, there, rfl⟩ := mem_noted.mp member
    have different : symbol ≠ definition.symbol := fun same =>
      fresh (same ▸ List.mem_map.mpr ⟨_, there, rfl⟩)
    simpa using different

/-- The error of the first definition whose symbol is taken by an earlier one. -/
def FirstDuplicate (definitions : List (String × Definition)) (error : LinkError) : Prop :=
  ∃ before first taken object definition after,
    definitions = before ++ (object, definition) :: after
    ∧ (symbolsOf before).Nodup
    ∧ (first, taken) ∈ before
    ∧ taken.symbol = definition.symbol
    ∧ error = .duplicateSymbol definition.symbol first object

/-- The search for a duplicate goes through definitions as long as their symbols are new. By
induction on the definitions that are left.
-/
theorem duplicate?_noted (before rest : List (String × Definition))
    (distinct : (symbolsOf before).Nodup)
    : match duplicate? (noted before) rest with
      | none => (symbolsOf (before ++ rest)).Nodup
      | some error => FirstDuplicate (before ++ rest) error := by
  induction rest generalizing before with
  | nil => simpa [duplicate?] using distinct
  | cons next rest ih =>
      rcases next with ⟨object, definition⟩
      unfold duplicate?
      cases known : (noted before).lookup definition.symbol with
      | some first =>
          obtain ⟨front, back, split, -⟩ := List.lookup_eq_some_iff.mp known
          have member : (definition.symbol, first) ∈ noted before := by simp [split]
          obtain ⟨taken, earlier, symbol⟩ := mem_noted.mp member
          exact ⟨before, first, taken, object, definition, rest, rfl, distinct, earlier, symbol,
            rfl⟩
      | none =>
          have fresh := lookup_noted_eq_none.mp known
          have longer : (symbolsOf (before ++ [(object, definition)])).Nodup := by
            simpa [symbolsOf] using List.Nodup.concat fresh distinct
          have others := ih (before ++ [(object, definition)]) longer
          rwa [noted_append, List.append_assoc] at others

/-- Where no symbol is defined twice, none is taken by an earlier definition. -/
theorem symbol_ne_of_nodup {before after : List (String × Definition)}
    {last taken : String × Definition} (distinct : (symbolsOf (before ++ last :: after)).Nodup)
    (earlier : taken ∈ before)
    : taken.2.symbol ≠ last.2.symbol := by
  rw [symbolsOf, List.map_append] at distinct
  exact (List.nodup_append.mp distinct).2.2 taken.2.symbol (List.mem_map_of_mem earlier)
    last.2.symbol List.mem_cons_self

/-- A first duplicate is a duplicate. -/
theorem FirstDuplicate.not_nodup {definitions : List (String × Definition)} {error : LinkError}
    (duplicate : FirstDuplicate definitions error)
    : ¬ (symbolsOf definitions).Nodup := by
  obtain ⟨before, first, taken, object, definition, after, rfl, -, earlier, symbol, -⟩ := duplicate
  exact fun distinct => symbol_ne_of_nodup distinct earlier symbol

/-- Definitions with different symbols end before a definition whose symbol is taken. -/
theorem length_le_of_taken {before after different rest : List (String × Definition)}
    {last taken : String × Definition} (split : before ++ last :: after = different ++ rest)
    (distinct : (symbolsOf different).Nodup) (earlier : taken ∈ before)
    (symbol : taken.2.symbol = last.2.symbol)
    : different.length ≤ before.length := by
  by_contra longer
  have inside : before ++ [last] <+: different := by
    refine List.prefix_of_prefix_length_le ⟨after, ?_⟩ ⟨rest, split.symm⟩ ?_
    · rw [List.append_assoc, List.singleton_append]
    · rw [List.length_append, List.length_singleton]
      exact Nat.lt_of_not_le longer
  exact symbol_ne_of_nodup (distinct.sublist (inside.sublist.map _)) earlier symbol

/-- There is only one first duplicate, and only one earlier definition of its symbol. -/
theorem FirstDuplicate.unique {definitions : List (String × Definition)} {error other : LinkError}
    (duplicate : FirstDuplicate definitions error) (duplicateToo : FirstDuplicate definitions other)
    : error = other := by
  obtain ⟨before, first, taken, object, definition, after, rfl, distinct, earlier, symbol, rfl⟩ :=
    duplicate
  obtain ⟨beforeToo, firstToo, takenToo, objectToo, definitionToo, afterToo, same, distinctToo,
    earlierToo, symbolToo, rfl⟩ := duplicateToo
  have length : before.length = beforeToo.length :=
    Nat.le_antisymm (length_le_of_taken same.symm distinct earlierToo symbolToo)
      (length_le_of_taken same distinctToo earlier symbol)
  obtain ⟨rfl, rest⟩ := List.append_inj same length
  obtain ⟨rfl, rfl⟩ : object = objectToo ∧ definition = definitionToo :=
    Prod.mk.inj (List.cons.inj rest).1
  have owner : (first, taken) = (firstToo, takenToo) :=
    List.inj_on_of_nodup_map distinct earlier earlierToo (symbol.trans symbolToo.symm)
  rw [(Prod.mk.inj owner).1]

/-- What linking does, by what the search for a duplicate finds. -/
theorem link_cases (objects : List ObjectFile) (resolver : Resolver)
    : ((symbolsOf (definitions objects)).Nodup
        ∧ ∃ image, Image.link objects resolver = .ok image)
      ∨ ∃ error,
          FirstDuplicate (definitions objects) error
          ∧ Image.link objects resolver = .error error := by
  have searched := duplicate?_noted [] (definitions objects) List.nodup_nil
  change match duplicate? [] (definitions objects) with
    | none => (symbolsOf (definitions objects)).Nodup
    | some error => FirstDuplicate (definitions objects) error at searched
  unfold Image.link
  cases found : duplicate? [] (definitions objects) with
  | none => exact .inl ⟨by simpa [found] using searched, _, rfl⟩
  | some error => exact .inr ⟨error, by simpa [found] using searched, rfl⟩

/-- Linking fails with the error of the first duplicate. -/
theorem link_error_iff {objects : List ObjectFile} {resolver : Resolver} {error : LinkError}
    : Image.link objects resolver = .error error ↔ FirstDuplicate (definitions objects) error := by
  rcases link_cases objects resolver with ⟨distinct, image, linked⟩ | ⟨found, twice, failed⟩
  · rw [linked]
    exact ⟨nofun, fun duplicate => absurd distinct duplicate.not_nodup⟩
  · rw [failed]
    constructor
    · rintro ⟨⟩
      exact twice
    · intro duplicate
      rw [twice.unique duplicate]

/-- Object files that are linked define nothing twice. -/
theorem nodup_of_link {objects : List ObjectFile} {resolver : Resolver} {image : Image}
    (linked : Image.link objects resolver = .ok image)
    : (symbolsOf (definitions objects)).Nodup := by
  rcases link_cases objects resolver with ⟨distinct, -⟩ | ⟨error, -, failed⟩
  · exact distinct
  · rw [linked] at failed
    cases failed

/-- Where no symbol is defined twice, every definition says what its symbol means. -/
theorem linkedMeaning_of_mem {objects : List ObjectFile} {resolver : Resolver}
    (distinct : (symbolsOf (definitions objects)).Nodup) {object : String}
    {definition : Definition} (member : (object, definition) ∈ definitions objects)
    : linkedMeaning objects resolver definition.symbol = some (.function definition.body) := by
  unfold linkedMeaning
  cases first : (definitions objects).find? (·.2.symbol == definition.symbol) with
  | none => simpa using List.find?_eq_none.mp first _ member
  | some found =>
      have same : found.2.symbol = definition.symbol := by simpa using List.find?_some first
      obtain rfl : found = (object, definition) :=
        List.inj_on_of_nodup_map distinct (List.mem_of_find?_eq_some first) member same
      rfl

end MutationTesting.Image
