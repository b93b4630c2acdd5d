import MutationTesting.Linking.Runner

/-!
Linking and calling step by step. A workbench holds a table of slots and at most one image; the
image keeps the slots that it was linked with, also when a new table takes the place of theirs.
Mutants that have been activated can be released one by one.
-/

namespace MutationTesting

/-- An image and the slots that it was linked with. -/
structure LinkedImage where
  image : Image
  /-- The table of its slots; none while that is the current table of the workbench. -/
  ownTable : Option TrampolineTable := none
deriving Inhabited

/-- Everything that can be linked, and what has been linked so far. -/
structure Workbench where
  objects : List ObjectFile
  runner : Runner
  table : TrampolineTable := {}
  linked : Option LinkedImage := none
  /-- All activations in order; none where one has been released or lost its table. -/
  guards : List (Option Activation) := []
  process : ProcessState := {}
deriving Inhabited

namespace Workbench

/-- The program that calls go to. -/
def program? (bench : Workbench) : Option LoadedProgram :=
  bench.linked.map fun linked =>
    { image := linked.image, trampolines := linked.ownTable.getD bench.table }

def address? (bench : Workbench) (symbol : String) : Option Address :=
  bench.linked.bind (·.image.address? symbol)

/-- Releases all activations in the order in which they were made. -/
def releaseAll (bench : Workbench) : Workbench :=
  {
    bench with
    table := (bench.guards.filterMap id).foldl (·.release ·) bench.table
    guards := bench.guards.map fun _ => none
  }

/-- Begins a new table. The linked image keeps the one that it has, its mutants released. -/
def newTable (bench : Workbench) (functions : List String) : Workbench :=
  let bench := bench.releaseAll
  {
    bench with
    table := .ofFunctions bench.runner.mangler functions
    linked :=
      bench.linked.map fun linked =>
        { linked with ownTable := some (linked.ownTable.getD bench.table) }
  }

/-- Links object files. An image that was linked before is gone in any case. -/
def link (bench : Workbench) (objects : List ObjectFile) (resolver : Resolver)
    : Except LinkError Image × Workbench :=
  match Image.link objects resolver with
  | .error error => (.error error, { bench with linked := none })
  | .ok image => (.ok image, { bench with linked := some { image } })

/-- Links object files the way the runner does. -/
def load (bench : Workbench) (objects : List ObjectFile) : Except LinkError Image × Workbench :=
  bench.link objects (bench.runner.resolver bench.table)

def fixup (bench : Workbench) : Option TrampolineError × Workbench :=
  let (table, error) := bench.table.fixup bench.address?
  (error, { bench with table })

def setTarget (bench : Workbench) (name : String) (address : Address)
    : Except TrampolineError Workbench := do
  let slot ← bench.table.find name
  pure { bench with table := bench.table.setTarget slot.name (some address) }

/-- Activates a mutant. The activation is numbered by its place among all of them. -/
def activate (bench : Workbench) (name : String) (address : Address)
    : Except TrampolineError (Activation × Workbench) := do
  let slot ← bench.table.find name
  let (table, activation) := bench.table.activate slot address
  pure (activation, { bench with table, guards := bench.guards ++ [some activation] })

/-- Releases a numbered activation; none when there is no such activation any more. -/
def release? (bench : Workbench) (number : Nat) : Option Workbench :=
  match bench.guards[number]? with
  | some (some activation) =>
      some
        {
          bench with
          table := bench.table.release activation
          guards := bench.guards.set number none
        }
  | _ => none

/-- Activates a mutant in code that panics, which releases it again. -/
def unwind (bench : Workbench) (name : String) (address : Address)
    : Except TrampolineError Workbench := do
  let slot ← bench.table.find name
  let (table, activation) := bench.table.activate slot address
  pure { bench with table := table.release activation }

def run (bench : Workbench) (action : Exec α) : Except Stop α × Workbench :=
  let (outcome, process) := action bench.process
  (outcome, { bench with process })

/-- Runs a test; without a program it is invalid. -/
def runTest (bench : Workbench) (test : UnitTest) : Except Stop ExecutionStatus × Workbench :=
  match bench.program? with
  | some program => bench.run (test.run program)
  | none => (.ok .invalid, bench)

def resetRecorder (bench : Workbench) : Workbench :=
  { bench with process.recorder := bench.process.recorder.reset }

end Workbench

end MutationTesting
