import MutationTesting.Linking.Runner
import MutationTesting.Mutation.Point
import MutationTesting.Recording.TreeBuilding

/-!
Finding out what tests reach. Instrumented functions report when they are entered and left;
each test runs once with an empty recorder, and the calls that it makes give the functions that
it reaches with their distances.
-/

namespace MutationTesting

/-- The host functions that instrumented functions report to. -/
structure Hooks where
  enter : Body
  leave : Body

namespace Hooks

def enterSymbol : String := "tamper_enter_function"

def leaveSymbol : String := "tamper_leave_function"

/-- Reports are ignored. -/
def silent : Hooks := { enter := .const 0, leave := .const 0 }

/-- Reports go to the recorder of the process. -/
def recording : Hooks := { enter := .recordEnter, leave := .recordLeave }

def addTo (hooks : Hooks) (library : HostLibrary) : HostLibrary :=
  (library.insert enterSymbol hooks.enter).insert leaveSymbol hooks.leave

/-- The same runner with hooks among its overrides. -/
def install (hooks : Hooks) (runner : Runner) : Runner :=
  { runner with overrides := hooks.addTo runner.overrides }

end Hooks

/-- The code of an instrumented function with the given number. It reports that it is left also
after a fault of the body.
-/
def Body.instrumented (number : Nat) (body : Body) : Body :=
  let report (symbol : String) : Body := .call symbol [.const (.ofNat number)]
  .sequence [report Hooks.enterSymbol, .cleanup body (report Hooks.leaveSymbol)]

/-- What is known about which functions are looked for. -/
structure DiscoverySettings where
  /-- The instrumented functions; the first has number 1. -/
  functions : List String
  maxDistance : Nat
  /-- Functions that hide whatever is reached through them. -/
  skip : List String := []
deriving Inhabited

/-- What a test was seen to call. -/
structure Discovery where
  mapping : List Nat
  testees : List Testee
deriving Inhabited

namespace DiscoverySettings

/-- What a test reaches by a recorded mapping. -/
def testees (settings : DiscoverySettings) (mapping : List Nat) (test : UnitTest)
    : List Testee :=
  let tree := CallTree.ofMapping mapping settings.functions
  tree.testees (tree.subtrees [test.entry]) test settings.maxDistance settings.skip.contains

/-- What a test reaches by a recorded mapping, found step by step: the tree is built, the nodes of
the entry point are searched, and the walks of the test start there.
-/
def testees? (settings : DiscoverySettings) (mapping : List Nat) (test : UnitTest)
    : Option (List Testee) := do
  let tree ← CallTree.build? mapping settings.functions
  let starts ← tree.subtrees? [test.entry]
  tree.testees? starts test settings.maxDistance settings.skip.contains

/-- Runs a test and finds out what it reaches, whether it passes or not. -/
def discover (settings : DiscoverySettings) (program : LoadedProgram) (test : UnitTest)
    : Exec Discovery := do
  Exec.change fun process => { process with recorder := process.recorder.reset }
  let _ ← test.run program
  let process ← get
  let mapping := process.recorder.mapping
  pure { mapping, testees := settings.testees mapping test }

/-- Finds out what tests reach, one after the other. -/
def discoverAll (settings : DiscoverySettings) (program : LoadedProgram)
    : List UnitTest → Exec (List Discovery)
  | [] => pure []
  | test :: rest => do
      let first ← settings.discover program test
      let others ← settings.discoverAll program rest
      pure (first :: others)

end DiscoverySettings

/-- The tests that reach points are added to the points. -/
def attachTests (points : List MutationPoint) (testees : List Testee) : List MutationPoint :=
  points.map fun point => point.withReachableTests (reachableTests point.function testees)

end MutationTesting
