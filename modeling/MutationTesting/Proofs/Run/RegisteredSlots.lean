import Mathlib.Data.Finset.Card
import MutationTesting.Proofs.Run.Planning
import MutationTesting.Proofs.Trampoline.Handles

/-! A table answers for its functions and for nothing else, in whatever state its slots are. A run
over points whose functions are listed therefore never misses a slot.
-/

namespace MutationTesting

/-- Loading a program does not look for slots by name. -/
theorem ProgramSource.load_ne_unregistered (source : ProgramSource) (name : String)
    : source.load ≠ .error (.trampoline (.unregistered name)) := by
  intro failed
  rcases source.link_cases with ⟨-, image, linked⟩ | ⟨error, -, unlinked⟩
  · rw [load_of_link linked] at failed
    split at failed <;> cases failed
  · rw [load_of_link_error unlinked] at failed
    cases failed

/-- A point whose function is listed finds its slot. -/
theorem MutantRuns.PointTrace.ne_unregistered {setup : MutantRuns σ} {image : Image}
    {point : MutationPoint} (listed : point.function ∈ setup.source.trampolined)
    {record : PointRecord} {name : String}
    : ¬ setup.PointTrace (setup.loadedProgram image) point record
          (.error (.trampoline (.unregistered name))) := by
  intro trace
  cases trace with
  | missing located =>
      have registered : setup.source.emptyTable.find? (setup.slotName point)
          = some (.ofFunction setup.source.runner.mangler point.function) :=
        (TrampolineTable.find?_ofFunctions _ _ _).trans (if_pos listed)
      rw [locate_loadedProgram, registered] at located
      dsimp only at located
      split at located <;> cases located
  | located _ _ tests => cases tests

namespace Engine

/-- A run whose points have listed functions does not end with a missing slot. Only looking for the
slot of a point can end so, and it finds the slot.
-/
theorem runMutants_ne_unregistered (engine : Engine σ) {points : List MutationPoint}
    {trampolined : List String}
    (listed : ∀ point ∈ points, point.function ∈ trampolined) (objects : List ObjectFile)
    (sandbox : σ) (name : String)
    : (engine.runMutants points objects trampolined sandbox).1
      ≠ .error (.trampoline (.unregistered name)) := by
  intro failed
  by_cases empty : points = []
  · subst empty
    cases failed
  rcases Nat.eq_zero_or_pos engine.configuration.counts.mutantExecution with nobody | pos
  · rw [runMutants_nobody nobody] at failed
    simp [empty] at failed
  cases real : engine.configuration.run.dryRun with
  | true =>
      rw [engine.runMutants_dryRun pos real] at failed
      cases failed
  | false =>
      let setup := engine.mutantRuns objects trampolined
      let recorded := engine.recordMutants points objects trampolined (sandbox, [])
      cases loaded : setup.source.load with
      | error error =>
          rw [engine.runMutants_of_load_error pos real empty loaded] at failed
          cases failed
          exact setup.source.load_ne_unregistered name loaded
      | ok program =>
          have trace : Trace (setup.PointTrace program) points recorded.2.2 recorded.1 :=
            engine.recordMutants_trace pos real loaded sandbox
          obtain ⟨image, -, rfl⟩ := ProgramSource.link_of_load loaded
          rw [engine.runMutants_recorded points objects trampolined (sandbox, [])] at failed
          rw [show recorded.1 = _ from failed] at trace
          obtain ⟨before, point, after, earlier, record, later, outputs, split, -, -, stops⟩ :=
            trace.of_error
          have own : point.function ∈ trampolined := listed point (split ▸ by simp)
          exact MutantRuns.PointTrace.ne_unregistered own stops

end Engine

namespace TrampolineTable

section

variable {mangler : Mangler} {functions : List String} {now : TrampolineTable}

/-- Whatever becomes of a table, it finds the slots of its functions. -/
theorem Becomes.find_of_listed (becomes : (ofFunctions mangler functions).Becomes now)
    {function : String} (listed : function ∈ functions)
    : ∃ slot,
        now.find (mangler.mangle (trampolineName function)) = .ok slot
        ∧ slot.name = mangler.mangle (trampolineName function)
        ∧ slot.function = mangler.mangle function := by
  have label := becomes.find?_label (mangler.mangle (trampolineName function))
  rw [find?_ofFunctions, if_pos listed, Option.map_some, Option.map_eq_some_iff] at label
  obtain ⟨slot, found, same⟩ := label
  obtain ⟨name, own⟩ := Prod.mk.inj same
  exact ⟨slot, find_eq_ok_iff.mpr found, name, own⟩

/-- Whatever becomes of a table, it finds no other slots. -/
theorem Becomes.find_of_unlisted (becomes : (ofFunctions mangler functions).Becomes now)
    {function : String} (unlisted : function ∉ functions)
    : now.find (mangler.mangle (trampolineName function))
      = .error (.unregistered (mangler.mangle (trampolineName function))) := by
  have label := becomes.find?_label (mangler.mangle (trampolineName function))
  rw [find?_ofFunctions, if_neg unlisted, Option.map_none, Option.map_eq_none_iff] at label
  rw [find, label]

/-- Whatever becomes of a table, its slots have the names of its functions. -/
theorem Becomes.names_ofFunctions (becomes : (ofFunctions mangler functions).Becomes now)
    : now.slots.map (·.name) = functions.eraseDups.map (mangler.mangle ∘ trampolineName) := by
  rw [names_of_labels, becomes.labels_eq, ← names_of_labels, slots_ofFunctions, List.map_map]
  rfl

/-- There are as many slots as there are functions. -/
theorem Becomes.length_ofFunctions (becomes : (ofFunctions mangler functions).Becomes now)
    : now.slots.length = functions.toFinset.card := by
  have names := congrArg List.length becomes.names_ofFunctions
  rw [List.length_map, List.length_map] at names
  have distinct : functions.eraseDups.toFinset = functions.toFinset := by
    ext function
    simp only [List.mem_toFinset, List.mem_eraseDups]
  rw [names, ← distinct, List.toFinset_card_of_nodup (nodup_eraseDups functions)]

end

/-- A table answers exactly for its functions, in whatever state its slots are. The slot of a
function is found if and only if the function is listed, and it is that of the function. The index
beside the slots leads every name to the same slot. There is one slot for each function, in the
order in which functions are first listed. A run that is given the functions of its points never
misses a slot.
-/
theorem ofFunctions_answers (mangler : Mangler) (functions : List String)
    : let table := ofFunctions mangler functions
      let indexed := IndexedSlots.ofFunctions mangler functions
      indexed.slots = table.slots
      ∧ (∀ now,
          table.Becomes now
          → (∀ function ∈ functions,
              ∃ slot,
                now.find (mangler.mangle (trampolineName function)) = .ok slot
                ∧ slot.name = mangler.mangle (trampolineName function)
                ∧ slot.function = mangler.mangle function)
            ∧ (∀ function ∉ functions,
                now.find (mangler.mangle (trampolineName function))
                = .error (.unregistered (mangler.mangle (trampolineName function))))
            ∧ (∀ name, indexed.SharesSlot now name)
            ∧ now.slots.length = functions.toFinset.card
            ∧ now.slots.map (·.name)
              = functions.eraseDups.map (mangler.mangle ∘ trampolineName))
      ∧ ∀ (σ : Type) (engine : Engine σ) points objects sandbox name,
          (engine.runMutants points objects (mutatedFunctionNames points) sandbox).1
          ≠ .error (.trampoline (.unregistered name)) := by
  intro table indexed
  have inStep : indexed.InStep table := IndexedSlots.ofFunctions_inStep mangler functions
  refine ⟨inStep.slots, fun now becomes => ?_, fun σ engine points objects sandbox name => ?_⟩
  · refine ⟨fun function listed => becomes.find_of_listed listed,
      fun function unlisted => becomes.find_of_unlisted unlisted, fun name => ?_,
      becomes.length_ofFunctions, becomes.names_ofFunctions⟩
    exact inStep.sharesSlot (ofFunctions_distinct mangler functions) becomes name
  · have listed (point : MutationPoint) (member : point ∈ points)
        : point.function ∈ mutatedFunctionNames points :=
      List.mem_eraseDups.mpr (List.mem_map_of_mem member)
    exact engine.runMutants_ne_unregistered listed objects sandbox name

section

open Sample.Single

/-- Two functions, one of them listed twice. The slot of the other one is written by its name and
read through its handle.
-/
theorem sample_ofFunctions_answers
    : let mangler : Mangler := { globalPrefix := some '_' }
      let table := ofFunctions mangler ["f", "g", "f"]
      let now := table.setTarget "__g_trampoline" (some (.ofIndex 7))
      table.Becomes now
      ∧ (∃ slot, now.find "__g_trampoline" = .ok slot ∧ slot.function = "_g")
      ∧ now.find "__h_trampoline" = .error (.unregistered "__h_trampoline")
      ∧ now.slots.length = 2
      ∧ now.slots.map (·.name) = ["__f_trampoline", "__g_trampoline"]
      ∧ now.slots = table.slots.modify 1 (fun slot => { slot with target := some (.ofIndex 7) })
      ∧ LoadedProgram.target? { image := linkedImage, trampolines := now } (.own "__g_trampoline")
        = some (.ofIndex 7)
      ∧ (engineByName.runMutants [reachedPoint] objects (mutatedFunctionNames [reachedPoint]) ()).1
        ≠ .error (.trampoline (.unregistered "_one_trampoline")) := by
  intro mangler table now
  have becomes : table.Becomes now := .pointed .unchanged _ _
  obtain ⟨-, answers, runs⟩ := ofFunctions_answers mangler ["f", "g", "f"]
  obtain ⟨-, -, handles, -, -⟩ := answers table .unchanged
  obtain ⟨listed, unlisted, handlesNow, length, names⟩ := answers now becomes
  obtain ⟨slot, found, -, function⟩ := listed "g" (by decide)
  have placed : (IndexedSlots.ofFunctions mangler ["f", "g", "f"]).place? "__g_trampoline"
      = some 1 := by
    decide
  exact ⟨becomes, ⟨slot, found, function⟩, unlisted "h" (by decide), length, names,
    (handles _).written 1 placed _, (handlesNow _).read 1 placed linkedImage [],
    runs Unit engineByName _ _ () _⟩

end

end TrampolineTable

end MutationTesting
