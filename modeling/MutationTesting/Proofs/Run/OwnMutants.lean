import MutationTesting.Proofs.Linking.Calls
import MutationTesting.Proofs.Naming.MutantNames
import MutationTesting.Proofs.Run.Loading
import MutationTesting.Proofs.Run.PointTraces
import MutationTesting.Sample.Single

/-! Every point is judged on its own mutant. Different points have different symbols, so that an
object file may define the mutants of them all; linking gives each symbol the code of its own
point; and while the tests of a point run, its slot leads to that code.
-/

namespace MutationTesting

-----------------------------------------------------------------------------------------
-- Object files that define mutants
-----------------------------------------------------------------------------------------

/-- The definition of the mutant of a point, with the code that is given for the point. -/
def MutationPoint.mutant (mangler : Mangler) (body : MutationPoint → Body) (point : MutationPoint)
    : Definition :=
  { symbol := mangler.mangle point.mutatedFunctionName, body := body point }

@[simp] theorem MutationPoint.mutant_symbol (mangler : Mangler) (body : MutationPoint → Body)
    (point : MutationPoint)
    : (point.mutant mangler body).symbol = mangler.mangle point.mutatedFunctionName := by
  rw [mutant]

/-- One object file defines the mutants of all points, in any order. Neither its other definitions
nor the rest of the program take their symbols, and none of these is defined twice.
-/
structure DefinesMutants (mangler : Mangler) (body : MutationPoint → Body)
    (points : List MutationPoint) (mutants : ObjectFile) (others : List Definition)
    (program : List ObjectFile)
    : Prop where
  definitions : mutants.definitions.Perm (points.map (·.mutant mangler body) ++ others)
  distinct : ((others ++ program.flatMap (·.definitions)).map (·.symbol)).Nodup
  apart
    : ∀ point ∈ points,
        ∀ definition ∈ others ++ program.flatMap (·.definitions),
          mangler.mangle point.mutatedFunctionName ≠ definition.symbol

/-- Points that stand for different mutants have different symbols, unless a function starts with a
digit.
-/
theorem MutationPoint.symbols_nodup (mangler : Mangler) (body : MutationPoint → Body)
    {points : List MutationPoint}
    (words : ∀ point ∈ points, ¬ Text.startsWithDigit point.function)
    (different : points.Pairwise fun first second => ¬ first.SameMutant second)
    : ((points.map (·.mutant mangler body)).map (·.symbol)).Nodup := by
  rw [List.map_map, List.Nodup, List.pairwise_map]
  refine different.imp_of_mem fun {first second} member memberToo apart same => apart ?_
  have symbols : mangler.mangle first.mutatedFunctionName
      = mangler.mangle second.mutatedFunctionName := by
    simpa only [Function.comp_apply, mutant_symbol] using same
  exact .of_mutatedFunctionName (words first member) (words second memberToo)
    (mutatedFunctionName_of_mangle symbols)

theorem Image.symbolsOf_definitions (objects : List ObjectFile)
    : symbolsOf (definitions objects) = (objects.flatMap (·.definitions)).map (·.symbol) := by
  simp only [symbolsOf, definitions, List.map_flatMap, List.map_map]
  rfl

section

variable {mangler : Mangler} {body : MutationPoint → Body} {points : List MutationPoint}
  {before after : List ObjectFile} {mutants : ObjectFile} {others : List Definition}

/-- Then no symbol is defined twice, wherever the object file with the mutants stands. -/
theorem DefinesMutants.nodup
    (defined : DefinesMutants mangler body points mutants others (before ++ after))
    (words : ∀ point ∈ points, ¬ Text.startsWithDigit point.function)
    (different : points.Pairwise fun first second => ¬ first.SameMutant second)
    : (Image.symbolsOf (Image.definitions (before ++ mutants :: after))).Nodup := by
  have order : ((before ++ mutants :: after).flatMap (·.definitions)).Perm
      (points.map (·.mutant mangler body)
        ++ (others ++ (before ++ after).flatMap (·.definitions))) := by
    have front : ((before ++ mutants :: after).flatMap (·.definitions)).Perm
        (mutants.definitions ++ (before ++ after).flatMap (·.definitions)) :=
      List.perm_middle.flatMap_right _
    rw [← List.append_assoc]
    exact front.trans (defined.definitions.append_right _)
  rw [Image.symbolsOf_definitions, (order.map (·.symbol)).nodup_iff, List.map_append,
    List.nodup_append]
  refine ⟨MutationPoint.symbols_nodup mangler body words different, defined.distinct, ?_⟩
  intro symbol own other there
  obtain ⟨_, mutant, rfl⟩ := List.mem_map.mp own
  obtain ⟨point, member, rfl⟩ := List.mem_map.mp mutant
  obtain ⟨definition, rest, rfl⟩ := List.mem_map.mp there
  rw [MutationPoint.mutant_symbol]
  exact defined.apart point member definition rest

/-- In the linked image the symbol of a point leads to the mutant of the point. -/
theorem DefinesMutants.function?_eq
    (defined : DefinesMutants mangler body points mutants others (before ++ after))
    (distinct : (Image.symbolsOf (Image.definitions (before ++ mutants :: after))).Nodup)
    {resolver : Resolver} {image : Image}
    (linked : Image.link (before ++ mutants :: after) resolver = .ok image) {point : MutationPoint}
    (member : point ∈ points) {address : Address}
    (found : image.address? (mangler.mangle point.mutatedFunctionName) = some address)
    : image.function? address.raw = some (body point) := by
  obtain ⟨sound, means⟩ := Image.link_meaning linked
  obtain ⟨code, lies, own⟩ := sound.meaning?_of_address found
  have inside : point.mutant mangler body ∈ mutants.definitions :=
    defined.definitions.mem_iff.mpr (by simpa using .inl ⟨point, member, rfl⟩)
  have listed : (mutants.name, point.mutant mangler body)
      ∈ Image.definitions (before ++ mutants :: after) :=
    List.mem_flatMap.mpr ⟨mutants, by simp, List.mem_map_of_mem inside⟩
  have meaning := (means _).trans (Image.linkedMeaning_of_mem distinct listed)
  rw [MutationPoint.mutant_symbol, own] at meaning
  obtain rfl : code = body point := by simpa [MutationPoint.mutant] using meaning
  exact lies

end

-----------------------------------------------------------------------------------------
-- Calls made for points
-----------------------------------------------------------------------------------------

namespace MutantRuns

/-- The sandbox is called while the slot of the function of a point holds an address, and calling
this address runs the given code.
-/
def RunsCode (setup : MutantRuns σ) (point : MutationPoint) (body : Body) (call : SandboxCall)
    : Prop :=
  ∃ slot address,
    call.trial.program.trampolines.find? (setup.slotName point) = some slot
    ∧ slot.function = setup.source.runner.mangler.mangle point.function
    ∧ slot.target = some address
    ∧ call.trial.program.callee (.address address.raw) = .ok body
    ∧ ∀ args,
        call.trial.program.call (.address address.raw) args
          = body.eval (call.trial.program.callWithin (LoadedProgram.deepestCall - 1)) args

variable {setup : MutantRuns σ} {program : LoadedProgram} {point : MutationPoint}

/-- The slot of a point belongs to the function of the point. -/
theorem slot_function (loaded : setup.source.load = .ok program) {slot : Slot}
    (found : program.trampolines.find? (setup.slotName point) = some slot)
    : slot.function = setup.source.runner.mangler.mangle point.function := by
  obtain ⟨image, -, rfl⟩ := ProgramSource.link_of_load loaded
  rw [ProgramSource.find?_fixedTable, ProgramSource.emptyTable, slotName, MutationPoint.trampoline,
    TrampolineTable.find?_ofFunctions] at found
  split at found
  · obtain rfl := Option.some.inj found
    rfl
  · simp at found

/-- All calls made for a point run the code that lies where the image has its mutant. -/
theorem PointTrace.runsCode (loaded : setup.source.load = .ok program) {body : Body}
    (lies
      : ∀ address,
          program.image.address? (setup.mutantSymbol point) = some address
          → program.image.function? address.raw = some body)
    {record : PointRecord} {answer : Except TaskError (List MutationResult)}
    (trace : setup.PointTrace program point record answer)
    : record.point = point ∧ ∀ call ∈ record.calls, setup.RunsCode point body call := by
  cases trace with
  | missing _ => simp
  | @located slot address calls _ located made _ =>
      refine ⟨rfl, fun call member => ?_⟩
      obtain ⟨found, symbol⟩ := mem_of_locate located
      have active := TrampolineTable.find?_activate_self found address
      have reached : call.trial.program.callee (.address address.raw) = .ok body := by
        rw [(made call member).program]
        simp only [LoadedProgram.withMutant, LoadedProgram.callee, LoadedProgram.bodyAt,
          lies address symbol]
      have function := slot_function loaded found
      refine ⟨{ slot with target := some address }, address, ?_, function, rfl, reached,
        LoadedProgram.call_of_callee reached⟩
      rw [(made call member).program]
      exact active

end MutantRuns

-----------------------------------------------------------------------------------------
-- Engines
-----------------------------------------------------------------------------------------

namespace Engine

/-- Every point is judged on its own mutant. When the points stand for different mutants, no
function starts with a digit, and one object file defines the mutants of all points, then linking
finds no symbol defined twice, and all calls of the sandbox for a point happen while the slot of
its function leads to the code of its own mutant. The calls are recorded on the way, which changes
nothing.
-/
theorem runMutants_runsOwnMutants (engine : Engine σ) (body : MutationPoint → Body)
    {points : List MutationPoint}
    (words : ∀ point ∈ points, ¬ Text.startsWithDigit point.function)
    (different : points.Pairwise fun first second => ¬ first.SameMutant second)
    {before after : List ObjectFile} {mutants : ObjectFile} {others : List Definition}
    (defined
      : DefinesMutants engine.runner.mangler body points mutants others (before ++ after))
    (trampolined : List String) (sandbox : σ)
    : let objects := before ++ mutants :: after
      let recorded := engine.recordMutants points objects trampolined (sandbox, [])
      (∀ resolver, ∃ image, Image.link objects resolver = .ok image)
      ∧ engine.runMutants points objects trampolined sandbox = (recorded.1, recorded.2.1)
      ∧ ∀ record ∈ recorded.2.2,
          record.point ∈ points
          ∧ ∀ call ∈ record.calls,
              (engine.mutantRuns objects trampolined).RunsCode record.point (body record.point)
                call := by
  intro objects recorded
  have distinct := defined.nodup words different
  refine ⟨fun resolver => ?_, engine.runMutants_recorded points objects trampolined (sandbox, []),
    fun record member => ?_⟩
  · rcases Image.link_cases objects resolver with ⟨-, linked⟩ | ⟨_, duplicate, -⟩
    · exact linked
    · exact absurd distinct duplicate.not_nodup
  · rcases engine.recordMutants_records points objects trampolined sandbox with
      none | ⟨program, loaded, trace⟩
    · rw [none] at member
      cases member
    · obtain ⟨point, pointMember, answer, own⟩ := trace.notedFor record member
      obtain ⟨image, linked, rfl⟩ := ProgramSource.link_of_load loaded
      obtain ⟨rfl, calls⟩ := own.runsCode loaded fun address found =>
        defined.function?_eq distinct linked pointMember found
      exact ⟨pointMember, calls⟩

section

open Sample.Single

/-- Two mutants of the function of the sample, each of them in the slot during its own two calls. -/
theorem single_runMutants_runsOwnMutants
    : let points : List MutationPoint := [reachedPoint, { reachedPoint with mutator := .mathSub }]
      let body (point : MutationPoint) : Body := .const (if point.mutator = .mathAdd then 2 else 3)
      let program : ObjectFile :=
        { name := "program.o", definitions := [⟨"one", .const 1⟩, ⟨"check", .const 0⟩] }
      let mutants : ObjectFile :=
        { name := "mutants.o", definitions := points.map (·.mutant {} body) }
      let recorded := engineByName.recordMutants points [program, mutants] ["one"] ((), [])
      DefinesMutants engineByName.runner.mangler body points mutants [] [program]
      ∧ (∀ resolver, ∃ image, Image.link [program, mutants] resolver = .ok image)
      ∧ recorded.2.2.map (·.calls.length) = [2, 2]
      ∧ ∀ record ∈ recorded.2.2,
          ∀ call ∈ record.calls,
            (engineByName.mutantRuns [program, mutants] ["one"]).RunsCode record.point
              (body record.point) call := by
  intro points body program mutants recorded
  have words : ∀ point ∈ points, ¬ Text.startsWithDigit point.function := by decide
  have different : points.Pairwise fun first second => ¬ first.SameMutant second := by
    simp only [points, List.pairwise_pair]
    exact fun same => nomatch same.mutator
  have defined
      : DefinesMutants engineByName.runner.mangler body points mutants [] ([program] ++ []) := {
    definitions := by
      rw [List.append_nil]
      exact .refl _
    distinct := by decide
    apart := by decide
  }
  obtain ⟨linked, -, calls⟩ :=
    runMutants_runsOwnMutants engineByName body words different defined ["one"] ()
  exact ⟨defined, linked, by decide, fun record member => (calls record member).2⟩

end

end Engine

end MutationTesting
