import MutationTesting.Proofs.Linking.LinkOrder
import MutationTesting.Proofs.Naming.SharedSymbols

/-! Mutants among the object files. No mutant has the symbol of a slot, and so mutants do not come
between callers and slots, wherever they stand among the object files.
-/

namespace MutationTesting

/-- All functions of the object file are mutants. -/
def ObjectFile.DefinesOnlyMutants (object : ObjectFile) (mangler : Mangler) : Prop :=
  ∀ definition ∈ object.definitions,
    ∃ point : MutationPoint, definition.symbol = mangler.mangle point.mutatedFunctionName

/-- The name is bound to a slot by its handle. -/
def LoadedProgram.BindsSlot (program : LoadedProgram) (name : String) (handle : SlotRef)
    (slot : Slot)
    : Prop :=
  program.image.binding? name = some (.slot handle) ∧ program.slot? handle = some slot

namespace Image

/-- The symbol of a first duplicate is defined more than once. -/
theorem FirstDuplicate.one_lt_count {definitions : List (String × Definition)}
    {symbol first second : String}
    (duplicate : FirstDuplicate definitions (.duplicateSymbol symbol first second))
    : 1 < (symbolsOf definitions).count symbol := by
  obtain ⟨before, object, taken, _, definition, after, rfl, -, earlier, same, ⟨⟩⟩ := duplicate
  have known : definition.symbol ∈ symbolsOf before :=
    List.mem_map.mpr ⟨_, earlier, same⟩
  have positive := List.count_pos_iff.mpr known
  rw [symbolsOf, List.map_append, List.map_cons, List.count_append, List.count_cons_self]
  change 1 < (symbolsOf before).count definition.symbol + _
  omega

section

variable {mangler : Mangler} {objects mutants larger : List ObjectFile} {resolver : Resolver}

/-- Object files of mutants define no symbol but those of mutants. -/
theorem exists_mutant_of_mem (onlyMutants : ∀ object ∈ mutants, object.DefinesOnlyMutants mangler)
    {symbol : String} (member : symbol ∈ symbolsOf (definitions mutants))
    : ∃ point : MutationPoint, symbol = mangler.mangle point.mutatedFunctionName := by
  obtain ⟨placed, there, rfl⟩ := List.mem_map.mp member
  obtain ⟨object, listed, inside⟩ := List.mem_flatMap.mp there
  obtain ⟨definition, defined, rfl⟩ := List.mem_map.mp inside
  exact onlyMutants object listed definition defined

theorem definitions_append (objects more : List ObjectFile)
    : definitions (objects ++ more) = definitions objects ++ definitions more :=
  List.flatMap_append

/-- Object files that define nothing twice without mutants, but fail to be linked with them, fail at
the symbol of a mutant.
-/
theorem exists_mutant_of_link_error
    (onlyMutants : ∀ object ∈ mutants, object.DefinesOnlyMutants mangler)
    (perm : larger.Perm (objects ++ mutants))
    (distinct : (symbolsOf (definitions objects)).Nodup) {symbol first second : String}
    (failed : Image.link larger resolver = .error (.duplicateSymbol symbol first second))
    : ∃ point : MutationPoint, symbol = mangler.mangle point.mutatedFunctionName := by
  apply exists_mutant_of_mem onlyMutants
  by_contra other
  have symbols : (symbolsOf (definitions larger)).Perm
      (symbolsOf (definitions objects) ++ symbolsOf (definitions mutants)) := by
    rw [symbolsOf, symbolsOf, symbolsOf, ← List.map_append, ← definitions_append]
    exact (definitions_perm perm).map _
  have twice := (link_error_iff.mp failed).one_lt_count
  rw [symbols.count_eq, List.count_append, List.count_eq_zero.mpr other] at twice
  exact absurd (List.nodup_iff_count_le_one.mp distinct symbol) (Nat.not_le.mpr twice)

/-- Where nothing is defined twice, a name that is not the symbol of a mutant still means what it
meant without mutants among the object files.
-/
theorem linkedMeaning_withMutants
    (onlyMutants : ∀ object ∈ mutants, object.DefinesOnlyMutants mangler)
    (perm : larger.Perm (objects ++ mutants))
    (distinct : (symbolsOf (definitions larger)).Nodup) {name : String}
    (other : ∀ point : MutationPoint, mangler.mangle point.mutatedFunctionName ≠ name)
    {resolution : Resolution}
    (means : linkedMeaning objects resolver name = some resolution)
    : linkedMeaning larger resolver name = some resolution := by
  have undefined : (definitions mutants).find? (·.2.symbol == name) = none := by
    rw [List.find?_eq_none]
    intro placed member own
    obtain ⟨point, same⟩ := exists_mutant_of_mem onlyMutants (List.mem_map_of_mem member)
    exact other point (same.symm.trans (by simpa using own))
  rw [linkedMeaning_perm perm distinct]
  unfold linkedMeaning at means ⊢
  rw [definitions_append, List.find?_append, undefined, Option.or_none, List.flatMap_append]
  cases found : (definitions objects).find? (·.2.symbol == name) with
  | some definition => simpa [found] using means
  | none =>
      by_cases referenced : name ∈ objects.flatMap (·.references)
      · simpa [found, referenced] using means
      · simp [found, referenced] at means

end

end Image

namespace LoadedProgram

/-- Mutants never take the place of a slot. Their symbols are not those of slots, and slots of
different functions have different symbols. When mutants join object files, wherever they stand,
every name of a slot that was bound to a slot without them is bound to the same slot with them, of
whichever table it is and whatever the slots hold. If linking fails because of them, it fails at
the symbol of a mutant.
-/
theorem bindsSlot_withMutants (mangler : Mangler)
    : (∀ point other : MutationPoint,
        mangler.mangle point.mutatedFunctionName
        ≠ mangler.mangle (trampolineName other.function))
      ∧ (∀ first second,
          mangler.mangle (trampolineName first) = mangler.mangle (trampolineName second)
          → first = second)
      ∧ ∀ objects mutants larger resolver image,
          (∀ object ∈ mutants, object.DefinesOnlyMutants mangler)
          → larger.Perm (objects ++ mutants)
          → Image.link objects resolver = .ok image
          → (∀ extended,
              Image.link larger resolver = .ok extended
              → ∀ trampolines foreign function handle slot,
                  BindsSlot { image, trampolines, foreign }
                      (mangler.mangle (trampolineName function)) handle slot
                  → BindsSlot { image := extended, trampolines, foreign }
                      (mangler.mangle (trampolineName function)) handle slot)
            ∧ ∀ symbol first second,
                Image.link larger resolver = .error (.duplicateSymbol symbol first second)
                → (∃ point : MutationPoint, symbol = mangler.mangle point.mutatedFunctionName)
                  ∧ ∀ function, symbol ≠ mangler.mangle (trampolineName function) := by
  refine ⟨fun point other => mangler.mangle_mutatedFunctionName_ne point other.function,
    fun _ _ same => mangler.mangle_trampolineName_inj same, ?_⟩
  intro objects mutants larger resolver image onlyMutants perm linked
  refine ⟨fun extended linkedToo trampolines foreign function handle slot bound => ?_,
    fun symbol first second failed => ?_⟩
  · obtain ⟨sound, means⟩ := Image.link_meaning linked
    obtain ⟨-, meansToo⟩ := Image.link_meaning linkedToo
    have own : Image.linkedMeaning objects resolver (mangler.mangle (trampolineName function))
        = some (.slot handle) := by
      rw [← means, Image.meaning?, bound.1]
    refine ⟨Image.binding?_of_slot ?_, bound.2⟩
    rw [meansToo]
    exact Image.linkedMeaning_withMutants onlyMutants perm (Image.nodup_of_link linkedToo)
      (mangler.mangle_mutatedFunctionName_ne · function) own
  · obtain ⟨point, same⟩ :=
      Image.exists_mutant_of_link_error onlyMutants perm (Image.nodup_of_link linked) failed
    refine ⟨⟨point, same⟩, fun function => ?_⟩
    rw [same]
    exact mangler.mangle_mutatedFunctionName_ne point function

section

open Sample.Single

/-- The sample with its mutant in an object file of its own, which comes first. -/
theorem sample_bindsSlot_withMutants
    : let check : Body := .wrapping .sub (.call "_one_trampoline" []) (.const 1)
      let program : ObjectFile :=
        {
          name := "program.o"
          definitions := [⟨"one", .const 1⟩, ⟨"check", check⟩]
          references := ["_one_trampoline"]
        }
      let mutants : ObjectFile :=
        { name := "mutants.o", definitions := [⟨point.mutatedFunctionName, .const 2⟩] }
      let resolver : Resolver := .withTrampolines source.emptyTable (.native {} {})
      let handle : SlotRef := .own "_one_trampoline"
      ∃ image extended,
        mutants.DefinesOnlyMutants {}
        ∧ Image.link [program] resolver = .ok image
        ∧ Image.link [mutants, program] resolver = .ok extended
        ∧ BindsSlot { image, trampolines := { slots := [slot] } } "_one_trampoline" handle slot
        ∧ BindsSlot { image := extended, trampolines := { slots := [slot] } } "_one_trampoline"
            handle slot := by
  intro check program mutants resolver handle
  have onlyMutants : mutants.DefinesOnlyMutants {} := by
    intro definition member
    obtain rfl := List.mem_singleton.mp member
    exact ⟨point, rfl⟩
  obtain ⟨image, linked, bound⟩ : ∃ image,
      Image.link [program] resolver = .ok image
      ∧ image.binding? "_one_trampoline" = some (.slot handle) :=
    ⟨_, rfl, rfl⟩
  obtain ⟨extended, linkedToo⟩ : ∃ image, Image.link [mutants, program] resolver = .ok image :=
    ⟨_, rfl⟩
  have binds
      : BindsSlot { image, trampolines := { slots := [slot] } } "_one_trampoline" handle slot :=
    ⟨bound, rfl⟩
  obtain ⟨-, -, joined⟩ := bindsSlot_withMutants {}
  obtain ⟨kept, -⟩ :=
    joined [program] [mutants] [mutants, program] resolver image (by simpa using onlyMutants)
      (.swap ..) linked
  exact ⟨image, extended, onlyMutants, linked, linkedToo, binds,
    kept extended linkedToo _ [] "one" handle slot binds⟩

end

end LoadedProgram

end MutationTesting
