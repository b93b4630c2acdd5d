import MutationTesting.Proofs.Linking.Calls
import MutationTesting.Proofs.Run.Loading
import MutationTesting.Proofs.Run.PointRuns
import MutationTesting.Proofs.Session.FreshImages

/-! What calls reach in programs that have been loaded. By its name a function is always reached.
Through its trampoline it is reached as well, unless a mutant is in place there.
-/

namespace MutationTesting

namespace ProgramSource

/-- What a name means once the object files of a source are linked. -/
def meaning? (source : ProgramSource) (name : String) : Option Resolution :=
  Image.linkedMeaning source.objects (source.runner.resolver source.emptyTable) name

/-- Nothing is defined twice, and no function that is to have a slot is missing. -/
structure Complete (source : ProgramSource) : Prop where
  distinct : (Image.symbolsOf (Image.definitions source.objects)).Nodup
  defined
    : ∀ function ∈ source.trampolined,
        ∃ body, source.meaning? (source.runner.mangler.mangle function) = some (.function body)

variable {source : ProgramSource} {program : LoadedProgram} {name function : String} {body : Body}

/-- A loaded program gives every name the meaning that it has for its source. -/
theorem meaning?_of_load (loaded : source.load = .ok program)
    : program.image.Sound ∧ ∀ name, program.image.meaning? name = source.meaning? name := by
  obtain ⟨image, linked, rfl⟩ := link_of_load loaded
  exact Image.link_meaning linked

theorem Complete.loads (complete : source.Complete) : ∃ program, source.load = .ok program := by
  rcases source.link_cases with ⟨-, image, linked⟩ | ⟨_, duplicate, -⟩
  · have none : source.trampolined.find? (!source.has image ·) = none := by
      rw [List.find?_eq_none]
      intro function listed
      obtain ⟨body, means⟩ := complete.defined function listed
      obtain ⟨address, found, -⟩ :=
        Image.address_of_meaning (((Image.link_meaning linked).2 _).trans means)
      simp [has, found]
    rw [load_of_link linked, none]
    exact ⟨_, rfl⟩
  · exact absurd complete.distinct duplicate.not_nodup

theorem callee_of_load (loaded : source.load = .ok program)
    (means : source.meaning? name = some (.function body))
    : program.callee (.symbol name) = .ok body := by
  obtain ⟨sound, same⟩ := meaning?_of_load loaded
  rw [LoadedProgram.callee_symbol sound, same, means]

/-- The slot of a function that is to have one, in a loaded program. -/
theorem find?_of_load (loaded : source.load = .ok program)
    (listed : function ∈ source.trampolined)
    : program.trampolines.find? (source.runner.mangler.mangle (trampolineName function))
      = some ((Slot.ofFunction source.runner.mangler function).fixedUp program.image.address?) := by
  obtain ⟨image, linked, rfl⟩ := link_of_load loaded
  rw [find?_fixedTable, emptyTable, TrampolineTable.find?_ofFunctions, if_pos listed]
  rfl

/-- While no mutant is in place, a function is reached through its trampoline. -/
theorem callee_trampoline_of_load (loaded : source.load = .ok program)
    (listed : function ∈ source.trampolined)
    (bound
      : source.meaning? (source.runner.mangler.mangle (trampolineName function))
        = some (.slot (.own (source.runner.mangler.mangle (trampolineName function)))))
    (means : source.meaning? (source.runner.mangler.mangle function) = some (.function body))
    : program.callee (.symbol (source.runner.mangler.mangle (trampolineName function)))
      = .ok body := by
  obtain ⟨sound, same⟩ := meaning?_of_load loaded
  obtain ⟨address, lies, there⟩ := Image.address_of_meaning ((same _).trans means)
  have target
      : program.slotTarget? (source.runner.mangler.mangle (trampolineName function))
        = some address := by
    rw [LoadedProgram.slotTarget?, find?_of_load loaded listed]
    exact lies
  rw [LoadedProgram.callee_symbol sound, same, bound]
  simp only [LoadedProgram.target?_own, target, LoadedProgram.bodyAt, there]

end ProgramSource

namespace LoadedProgram

variable {program : LoadedProgram} {name : String} {slot : Slot}

/-- Calls through the slot of a mutant reach whatever lies at its address. -/
theorem callee_withMutant_self (sound : program.image.Sound)
    (bound : program.image.meaning? name = some (.slot (.own name)))
    (found : program.trampolines.find? name = some slot) (address : Address)
    : (program.withMutant slot address).callee (.symbol name) = program.bodyAt address.raw := by
  have target : (program.withMutant slot address).target? (.own name) = some address := by
    rw [target?_own, slotTarget?, withMutant, TrampolineTable.find?_activate_self found address]
    rfl
  have soundToo : (program.withMutant slot address).image.Sound := sound
  have still : (program.withMutant slot address).image.meaning? name = some (.slot (.own name)) :=
    bound
  rw [callee_symbol soundToo, still]
  simp only [target]
  rfl

/-- A mutant does not change where slots lead but its own. -/
theorem target?_withMutant_of_ne (found : program.trampolines.find? name = some slot)
    {handle : SlotRef} (different : handle ≠ .own name) (address : Address)
    : (program.withMutant slot address).target? handle = program.target? handle := by
  obtain ⟨table, other⟩ := handle
  cases table with
  | zero =>
      have apart : other ≠ name := fun same => different (congrArg SlotRef.own same)
      have same : (program.trampolines.activate slot address).1.find? other
          = program.trampolines.find? other :=
        TrampolineTable.find?_activate_of_ne found apart address
      exact congrArg (Option.bind · (·.target)) same
  | succ table => rfl

/-- Calls by names that do not stand for its slot reach what they reach without the mutant. -/
theorem callee_withMutant_of_ne (sound : program.image.Sound)
    (found : program.trampolines.find? name = some slot) {other : String}
    (elsewhere : program.image.meaning? other ≠ some (.slot (.own name))) (address : Address)
    : (program.withMutant slot address).callee (.symbol other)
      = program.callee (.symbol other) := by
  have soundToo : (program.withMutant slot address).image.Sound := sound
  have still
      : (program.withMutant slot address).image.meaning? other = program.image.meaning? other :=
    rfl
  rw [callee_symbol soundToo, callee_symbol sound, still]
  cases means : program.image.meaning? other with
  | none => rfl
  | some resolution =>
      cases resolution with
      | function body => rfl
      | slot handle =>
          have different : handle ≠ .own name := fun same => elsewhere (by rw [means, same])
          simp only [target?_withMutant_of_ne found different]
          rfl

end LoadedProgram

end MutationTesting
