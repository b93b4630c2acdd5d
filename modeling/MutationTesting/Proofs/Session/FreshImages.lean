import MutationTesting.Proofs.Linking.LinkOrder
import MutationTesting.Sample.Single
import MutationTesting.Session.Workbench

/-! Every link starts from nothing. It fails exactly if a symbol is defined twice, with the error of
the first such definition, and then leaves no image behind, not even the one that was there before.
If it succeeds, all code that can be called is that of the object files that were linked, or what
the resolver has for one of their references.
-/

namespace MutationTesting

-----------------------------------------------------------------------------------------
-- Where code comes from
-----------------------------------------------------------------------------------------

namespace Image

/-- The code is that of a definition, or what the resolver has for a reference. -/
def Supplied (objects : List ObjectFile) (resolver : Resolver) (body : Body) : Prop :=
  (∃ object ∈ objects, ∃ definition ∈ object.definitions, definition.body = body)
  ∨ ∃ object ∈ objects, ∃ name ∈ object.references, resolver name = some (.function body)

theorem supplied_of_definition {objects : List ObjectFile} (resolver : Resolver)
    {definition : String × Definition} (member : definition ∈ definitions objects)
    : Supplied objects resolver definition.2.body := by
  obtain ⟨object, listed, inside⟩ := List.mem_flatMap.mp member
  obtain ⟨own, defined, rfl⟩ := List.mem_map.mp inside
  exact .inl ⟨object, listed, own, defined, rfl⟩

/-- Resolving a reference adds no code but that of the resolver. -/
theorem mem_functions_resolve {resolver : Resolver} {image : Image} {symbol : String} {body : Body}
    (member : body ∈ (image.resolve resolver symbol).functions)
    : body ∈ image.functions ∨ resolver symbol = some (.function body) := by
  unfold resolve at member
  split at member
  · exact .inl member
  · split at member
    · rename_i code resolved
      rcases List.mem_append.mp member with old | new
      · exact .inl old
      · rw [List.mem_singleton.mp new]
        exact .inr resolved
    · exact .inl member
    · exact .inl member

/-- All code of a linked image is supplied: the empty image has none, and placing a definition and
resolving a reference add no other.
-/
theorem supplied_of_link {objects : List ObjectFile} {resolver : Resolver} {image : Image}
    (linked : Image.link objects resolver = .ok image)
    : ∀ body ∈ image.functions, Supplied objects resolver body := by
  refine link_induction linked ?_ ?_ ?_
  · exact nofun
  · intro image supplied definition member body inside
    rcases List.mem_append.mp inside with old | new
    · exact supplied body old
    · rw [List.mem_singleton.mp new]
      exact supplied_of_definition resolver member
  · intro image supplied symbol referenced body inside
    rcases mem_functions_resolve inside with old | resolved
    · exact supplied body old
    · obtain ⟨object, listed, needed⟩ := List.mem_flatMap.mp referenced
      exact .inr ⟨object, listed, symbol, needed, resolved⟩

/-- A name that means a function has its address. -/
theorem address_of_meaning {image : Image} {name : String} {body : Body}
    (means : image.meaning? name = some (.function body))
    : ∃ address,
        image.address? name = some address ∧ image.function? address.raw = some body := by
  cases bound : image.binding? name with
  | none => simp [meaning?, bound] at means
  | some binding =>
      cases binding with
      | slot handle => simp [meaning?, bound] at means
      | function address =>
          have found : image.function? address.raw = some body := by
            simpa [meaning?, bound] using means
          exact ⟨address, by simp [address?, bound], found⟩

end Image

-----------------------------------------------------------------------------------------
-- Workbenches
-----------------------------------------------------------------------------------------

namespace Workbench

/-- The workbench has an image of these object files, and of nothing else. -/
structure Shows (bench : Workbench) (objects : List ObjectFile) (resolver : Resolver)
    (image : Image)
    : Prop where
  program : bench.program? = some { image, trampolines := bench.table }
  meaning : ∀ name, image.meaning? name = Image.linkedMeaning objects resolver name
  /-- A name that means a function has the address at which it lies. -/
  address
    : ∀ name body,
        Image.linkedMeaning objects resolver name = some (.function body)
        → ∃ address,
            bench.address? name = some address ∧ image.function? address.raw = some body
  /-- All other names have no address. -/
  hidden
    : ∀ name,
        (∀ body, Image.linkedMeaning objects resolver name ≠ some (.function body))
        → bench.address? name = none
  /-- Only references of these object files are noted as unresolved. -/
  unresolved : ∀ name ∈ image.unresolved, ∃ object ∈ objects, name ∈ object.references
  /-- No call reaches other code, by whatever name, address or slot. -/
  calls
    : ∀ program foreign target body,
        bench.program? = some program
        → ({ program with foreign } : LoadedProgram).callee target = .ok body
        → Image.Supplied objects resolver body

theorem link_of_error {objects : List ObjectFile} {resolver : Resolver} {error : LinkError}
    (failed : Image.link objects resolver = .error error) (bench : Workbench)
    : bench.link objects resolver = (.error error, { bench with linked := none }) := by
  unfold link
  rw [failed]

theorem link_of_ok {objects : List ObjectFile} {resolver : Resolver} {image : Image}
    (linked : Image.link objects resolver = .ok image) (bench : Workbench)
    : bench.link objects resolver = (.ok image, { bench with linked := some { image } }) := by
  unfold link
  rw [linked]

/-- The answer is that of linking the object files alone. -/
theorem link_answer (bench : Workbench) (objects : List ObjectFile) (resolver : Resolver)
    : (bench.link objects resolver).1 = Image.link objects resolver := by
  cases answer : Image.link objects resolver with
  | error error => rw [link_of_error answer]
  | ok image => rw [link_of_ok answer]

theorem shows_of_link {objects : List ObjectFile} {resolver : Resolver} {image : Image}
    (linked : Image.link objects resolver = .ok image) (bench : Workbench)
    : Shows { bench with linked := some { image } } objects resolver image := by
  obtain ⟨sound, means⟩ := Image.link_meaning linked
  exact {
    program := rfl
    meaning := means
    address := fun name body own => Image.address_of_meaning ((means name).trans own)
    hidden := fun name other => by
      by_contra present
      obtain ⟨address, bound⟩ := Option.ne_none_iff_exists'.mp present
      obtain ⟨body, -, own⟩ := sound.meaning?_of_address bound
      exact other body ((means name).symm.trans own)
    unresolved := fun name noted => by
      rw [Image.unresolved_of_link linked, List.mem_eraseDups] at noted
      exact List.mem_flatMap.mp (List.mem_filter.mp noted).1
    calls := by
      rintro program foreign target body ⟨⟩ reached
      exact Image.supplied_of_link linked body (LoadedProgram.mem_of_callee reached)
  }

/-- What linking does to a workbench, whatever was linked there before. It fails exactly if some
symbol is defined more than once. The error is that of the first definition whose symbol is taken,
and names the object file of the only definition before it that has the symbol. After an error there
is no program and no name has an address, and otherwise the new image is all there is: the image
that was linked before plays no part.
-/
theorem link_outcome (bench : Workbench) (objects : List ObjectFile) (resolver : Resolver)
    : let answer := (bench.link objects resolver).1
      let next := (bench.link objects resolver).2
      ((∃ error, answer = .error error)
        ↔ ∃ symbol, 1 < (Image.symbolsOf (Image.definitions objects)).count symbol)
      ∧ (∀ error,
          answer = .error error
          ↔ Image.FirstDuplicate (Image.definitions objects) error)
      ∧ (∀ error,
          answer = .error error
          → next.program? = none ∧ ∀ name, next.address? name = none)
      ∧ (∀ image, answer = .ok image → next.Shows objects resolver image)
      ∧ ∀ earlier : Option LinkedImage,
          ({ bench with linked := earlier } : Workbench).link objects resolver
          = bench.link objects resolver := by
  intro answer next
  have same : answer = Image.link objects resolver := bench.link_answer objects resolver
  refine ⟨?_, fun error => ?_, fun error failed => ?_, fun image linked => ?_, fun earlier => ?_⟩
  · rw [same, Image.link_fails_iff, List.nodup_iff_count_le_one]
    simp only [not_forall, Nat.not_le]
  · rw [same]
    exact Image.link_error_iff
  · have left : next = { bench with linked := none } := by
      simp only [next, link_of_error (same.symm.trans failed)]
    rw [left]
    exact ⟨rfl, fun name => rfl⟩
  · have left : next = { bench with linked := some { image } } := by
      simp only [next, link_of_ok (same.symm.trans linked)]
    rw [left]
    exact shows_of_link (same.symm.trans linked) bench
  · cases alone : Image.link objects resolver with
    | error error => rw [link_of_error alone, link_of_error alone]
    | ok image => rw [link_of_ok alone, link_of_ok alone]

section

open Sample.Single (source linkedImage)

/-- An image is there already when object files that define two symbols twice are linked, and then
the sample. The duplicate that comes first is blamed, though the other symbol was defined earlier.
-/
theorem sample_link_outcome
    : let bench : Workbench :=
        {
          objects := []
          runner := {}
          linked :=
            some
              { image := { functions := [.const 9], symbols := [("old", .function default)] } }
        }
      let twice : List ObjectFile :=
        [
          { name := "a.o", definitions := [⟨"f", .const 1⟩, ⟨"g", .const 2⟩] },
          { name := "b.o", definitions := [⟨"h", .const 3⟩, ⟨"g", .const 4⟩, ⟨"f", .const 5⟩] }
        ]
      let resolver : Resolver := .withTrampolines source.emptyTable (.native {} {})
      let failed := bench.link twice resolver
      let linked := bench.link Sample.Single.objects resolver
      bench.address? "old" = some default
      ∧ failed.1 = .error (.duplicateSymbol "g" "a.o" "b.o")
      ∧ failed.2.program? = none
      ∧ failed.2.address? "old" = none
      ∧ linked.1 = .ok linkedImage
      ∧ linked.2.Shows Sample.Single.objects resolver linkedImage
      ∧ linked.2.address? "old" = none := by
  intro bench twice resolver failed linked
  have first : Image.FirstDuplicate (Image.definitions twice) (.duplicateSymbol "g" "a.o" "b.o") :=
    ⟨[("a.o", ⟨"f", .const 1⟩), ("a.o", ⟨"g", .const 2⟩), ("b.o", ⟨"h", .const 3⟩)], "a.o",
      ⟨"g", .const 2⟩, "b.o", ⟨"g", .const 4⟩, [("b.o", ⟨"f", .const 5⟩)], rfl, by decide, by simp,
      rfl, rfl⟩
  obtain ⟨-, blamed, empty, -⟩ := bench.link_outcome twice resolver
  obtain ⟨-, -, -, shows, -⟩ := bench.link_outcome Sample.Single.objects resolver
  have failure : failed.1 = .error (.duplicateSymbol "g" "a.o" "b.o") := (blamed _).mpr first
  have success : linked.1 = .ok linkedImage := rfl
  refine ⟨rfl, failure, (empty _ failure).1, (empty _ failure).2 "old", success, shows _ success,
    (shows _ success).hidden "old" fun body => ?_⟩
  have unknown : Image.linkedMeaning Sample.Single.objects resolver "old" = none := rfl
  rw [unknown]
  exact nofun

end

end Workbench

end MutationTesting
