import MutationTesting.Linking.LoadedProgram

/-!
Runners: where programs are loaded, which host functions they may use and how symbols are
spelled there.
-/

namespace MutationTesting

/-- Where programs are loaded. -/
structure Runner where
  /-- Host functions that count before those of the process. -/
  overrides : HostLibrary := {}
  process : HostLibrary := {}
  mangler : Mangler := .host
deriving Inhabited

namespace Runner

def resolver (runner : Runner) (table : TrampolineTable) : Resolver :=
  .withTrampolines table (.native runner.overrides runner.process)

/-- Links object files with the slots of a table, as they are. -/
def link (runner : Runner) (objects : List ObjectFile) (table : TrampolineTable)
    : Except LinkError LoadedProgram := do
  let image ← Image.link objects (runner.resolver table)
  pure { image, trampolines := table }

end Runner

end MutationTesting
