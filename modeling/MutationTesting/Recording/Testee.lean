import MutationTesting.Execution.UnitTest
import MutationTesting.Recording.CallTree
import MutationTesting.Text.Quoted

/-!
The functions that a test reaches, and how far away they are. A subtree is walked level by
level from the node where a test starts; functions to skip hide what lies below them, and
nothing farther away than the given distance is looked at.
-/

namespace MutationTesting

/-- A test with its distance from what it reaches, in calls. -/
structure ReachableTest where
  test : UnitTest
  distance : Nat
deriving DecidableEq, Inhabited

/-- A function that a test reaches. -/
structure Testee where
  function : String
  test : UnitTest
  distance : Nat
deriving DecidableEq, Inhabited

def Testee.describe (testee : Testee) : String :=
  "Testee \x7b function: " ++ Text.quote testee.function ++ ", test: "
    ++ Text.quote testee.test.id ++ ", distance: " ++ toString testee.distance ++ " \x7d"

namespace CallTree

/-- The function of a node that a walk does not pass by. -/
def visible? (tree : CallTree) (skip : String → Bool) (node : Nat) : Option String :=
  (tree.function? node).filter (!skip ·)

/-- The nodes that a walk goes on to from a node when it started at the given depth. -/
def nearby (tree : CallTree) (maxDistance : Nat) (skip : String → Bool) (start node : Nat)
    : List Nat :=
  if (tree.visible? skip node).isSome ∧ tree.level node - start < maxDistance then
    tree.children node
  else
    []

/-- What a test reaches in one subtree. -/
def testeesBelow (tree : CallTree) (test : UnitTest) (maxDistance : Nat)
    (skip : String → Bool) (root : Nat)
    : List Testee :=
  let start := tree.level root
  (levelOrder (tree.nearby maxDistance skip start) tree.nodes.length [root]).filterMap
    fun node =>
      (tree.visible? skip node).map fun function =>
        { function, test, distance := tree.level node - start }

/-- What a test reaches in the given subtrees, in their order. -/
def testees (tree : CallTree) (subtrees : List Nat) (test : UnitTest) (maxDistance : Nat)
    (skip : String → Bool)
    : List Testee :=
  subtrees.flatMap (tree.testeesBelow test maxDistance skip)

/-- The distance of a level from the one of the start; none above it. -/
def distance? (start level : Nat) : Option Nat :=
  if start ≤ level then some (level - start) else none

/-- Handles a node on a walk that started at the given level: its function joins what was found, and
its children come next if they are near enough. Nothing comes of the root or of a function to skip.
-/
def reach? (tree : CallTree) (test : UnitTest) (maxDistance : Nat) (skip : String → Bool)
    (start number : Nat) (found : List Testee)
    : Option (List Nat × List Testee) := do
  let node ← tree.nodes[number]?
  match node.function with
  | none => some ([], found)
  | some function =>
      if skip function then
        some ([], found)
      else
        let distance ← distance? start node.level
        let testee : Testee := { function, test, distance }
        let next := if distance < maxDistance then node.children else []
        some (next, found ++ [testee])

/-- Adds what a test reaches in one subtree, found with a queue that starts there. A number of no
node is passed over.
-/
def addTestees? (tree : CallTree) (test : UnitTest) (maxDistance : Nat) (skip : String → Bool)
    (found : List Testee) (root : Nat)
    : Option (List Testee) :=
  match tree.nodes[root]? with
  | none => some found
  | some node =>
      (drain (tree.reach? test maxDistance skip node.level) tree.nodes.length [root] found).map
        Prod.snd

/-- What a test reaches in the given subtrees, one subtree after the other. -/
def testees? (tree : CallTree) (subtrees : List Nat) (test : UnitTest) (maxDistance : Nat)
    (skip : String → Bool)
    : Option (List Testee) :=
  subtrees.foldlM (tree.addTestees? test maxDistance skip) []

end CallTree

/-- Adds one appearance of a test: a test that is already listed keeps its place and the
smaller distance.
-/
def ReachableTest.insert (listed : List ReachableTest) (test : UnitTest) (distance : Nat)
    : List ReachableTest :=
  match listed with
  | [] => [{ test, distance }]
  | first :: rest =>
      if first.test.id = test.id then
        { first with distance := min first.distance distance } :: rest
      else
        first :: insert rest test distance

/-- The tests that reach a function, each once and at its smallest distance, in the order in
which they first appear.
-/
def reachableTests (function : String) (testees : List Testee) : List ReachableTest :=
  (testees.filter (·.function == function)).foldl
    (fun listed testee => ReachableTest.insert listed testee.test testee.distance) []

end MutationTesting
