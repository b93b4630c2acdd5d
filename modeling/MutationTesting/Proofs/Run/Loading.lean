import MutationTesting.Proofs.Linking.Duplicates
import MutationTesting.Proofs.Trampoline.Registration
import MutationTesting.Run.Mutants

/-! What loading a program comes to: the image of its object files with every slot pointing at its
own function, or the error of the first step that fails.
-/

namespace MutationTesting

namespace ProgramSource

/-- The image of the object files, with the slots of the source. -/
def link (source : ProgramSource) : Except LinkError Image :=
  Image.link source.objects (source.runner.resolver source.emptyTable)

/-- The image has the function of a name. -/
def has (source : ProgramSource) (image : Image) (function : String) : Bool :=
  (image.address? (source.runner.mangler.mangle function)).isSome

/-- The slots of a loaded program, each pointing at its function in the image. -/
def fixedTable (source : ProgramSource) (image : Image) : TrampolineTable :=
  { slots := source.emptyTable.slots.map (·.fixedUp image.address?) }

variable {source : ProgramSource} {image : Image}

/-- The object files of a source are linked, or they define a symbol twice. -/
theorem link_cases (source : ProgramSource)
    : ((Image.symbolsOf (Image.definitions source.objects)).Nodup
        ∧ ∃ image, source.link = .ok image)
      ∨ ∃ error,
          Image.FirstDuplicate (Image.definitions source.objects) error
          ∧ source.link = .error error :=
  Image.link_cases source.objects (source.runner.resolver source.emptyTable)

/-- A program whose object files cannot be linked is not loaded. -/
theorem load_of_link_error {error : LinkError} (failed : source.link = .error error)
    : source.load = .error (.link error) := by
  have same : Image.link source.objects (source.runner.resolver source.emptyTable) = .error error :=
    failed
  simp only [load, Runner.link, same, bind, Except.bind]

/-- A program that is linked is loaded unless its image lacks a function that is to have a slot; the
first one that it lacks is the reason then.
-/
theorem load_of_link (linked : source.link = .ok image)
    : source.load
      = match source.trampolined.find? (!source.has image ·) with
        | some missing =>
            .error (.trampoline (TrampolineTable.missingFunction source.runner.mangler missing))
        | none => .ok { image, trampolines := source.fixedTable image } := by
  have same : Image.link source.objects (source.runner.resolver source.emptyTable) = .ok image :=
    linked
  have failure :=
    TrampolineTable.fixup_error source.runner.mangler source.trampolined image.address?
  have lacks : (fun function => (image.address? (source.runner.mangler.mangle function)).isNone)
      = (!source.has image ·) := by
    funext function
    simp [has]
  rw [lacks] at failure
  simp only [load, Runner.link, LoadedProgram.fixedUp, same, bind, Except.bind, pure, Except.pure]
  rcases fixing : source.emptyTable.fixup image.address? with ⟨trampolines, error⟩
  rw [← emptyTable, fixing] at failure
  cases missing : source.trampolined.find? (!source.has image ·) with
  | some function =>
      obtain rfl : error = some _ := by simpa [missing] using failure
      rfl
  | none =>
      obtain rfl : error = none := by simpa [missing] using failure
      obtain ⟨slots, -⟩ := TrampolineTable.fixup_of_none fixing
      simp only [fixedTable, ← slots]

/-- A loaded program is a linked image with its slots fixed up. -/
theorem link_of_load {program : LoadedProgram} (loaded : source.load = .ok program)
    : ∃ image,
        source.link = .ok image
        ∧ program = { image, trampolines := source.fixedTable image } := by
  rcases source.link_cases with ⟨-, image, linked⟩ | ⟨error, -, unlinked⟩
  · rw [load_of_link linked] at loaded
    split at loaded
    · simp at loaded
    · exact ⟨image, linked, (Except.ok.inj loaded).symm⟩
  · rw [load_of_link_error unlinked] at loaded
    simp at loaded

theorem find?_fixedTable (source : ProgramSource) (image : Image) (name : String)
    : (source.fixedTable image).find? name
      = (source.emptyTable.find? name).map (·.fixedUp image.address?) := by
  unfold TrampolineTable.find?
  rw [fixedTable, List.find?_map]
  rfl

end ProgramSource

end MutationTesting
