import MutationTesting.Linking.Runner
import MutationTesting.Scheduling.TaskError

/-!
Loading the program that tests are run in: linked, with every trampoline pointing at its own
function.
-/

namespace MutationTesting

namespace LoadedProgram

/-- The program with its slots pointing at their own functions, or the error for the first
slot whose function is missing.
-/
def fixedUp (program : LoadedProgram) : Except TrampolineError LoadedProgram :=
  match program.trampolines.fixup program.image.address? with
  | (_, some error) => .error error
  | (trampolines, none) => .ok { program with trampolines }

end LoadedProgram

/-- What a program is made from: where it is loaded, its object files, and the functions that
are reached through trampolines.
-/
structure ProgramSource where
  runner : Runner
  objects : List ObjectFile
  trampolined : List String
deriving Inhabited

namespace ProgramSource

/-- The slots of a program before it is linked. -/
def emptyTable (source : ProgramSource) : TrampolineTable :=
  .ofFunctions source.runner.mangler source.trampolined

/-- Links the program and fixes its slots up. -/
def load (source : ProgramSource) : Except TaskError LoadedProgram :=
  match source.runner.link source.objects source.emptyTable with
  | .error error => .error (.link error)
  | .ok program =>
      match program.fixedUp with
      | .error error => .error (.trampoline error)
      | .ok program => .ok program

end ProgramSource

end MutationTesting
