/-!
The tree of first calls that a recorded mapping describes. Its root stands for the outside and
has no function. A function hangs below its first caller, or below the root when it was called
from outside or its caller is not a known, called function. Functions that only call each other
in a circle are not reachable from the root and have no children. Trees are walked level by level
with a queue: what an item leads to joins the end. Nothing keeps an item from being met again, so
whether such a loop comes to its end is up to what the items lead to.
-/

namespace MutationTesting

/-- The items handled by a queue that starts as given: the first item is taken, and what it
leads to joins the end. The budget bounds the number of items handled.
-/
def levelOrder (expand : α → List α) : (budget : Nat) → (queue : List α) → List α
  | 0, _ => []
  | _, [] => []
  | budget + 1, item :: queue => item :: levelOrder expand budget (queue ++ expand item)

/-- Handles the first item of a queue until the queue is empty. The answer has the items that were
handled, in order, and the last state. There is none if an item could not be handled, and none if
the queue is not empty after as many items as the budget allows.
-/
def drain (handle : α → σ → Option (List α × σ))
    : (budget : Nat) → (queue : List α) → σ → Option (List α × σ)
  | _, [], state => some ([], state)
  | 0, _ :: _, _ => none
  | budget + 1, item :: queue, state => do
      let (more, state) ← handle item state
      let (handled, state) ← drain handle budget (queue ++ more) state
      some (item :: handled, state)

/-- A function in the tree: its name (none for the root), its depth and its callees. -/
structure CallNode where
  function : Option String
  level : Nat
  children : List Nat
deriving DecidableEq, Inhabited

/-- Nodes by number; the root is number 0. -/
structure CallTree where
  nodes : List CallNode
deriving DecidableEq, Inhabited

namespace CallTree

/-- The node that a function hangs below, among `count` nodes; none for the root and for a
function that was never called.
-/
def parent? (mapping : List Nat) (count node : Nat) : Option Nat :=
  let noted := mapping.getD node 0
  if node = 0 ∨ noted = 0 then
    none
  else if noted = node ∨ count ≤ noted ∨ mapping.getD noted 0 = 0 then
    some 0
  else
    some noted

/-- For every node the one that it hangs below. -/
def parents (mapping : List Nat) (count : Nat) : List (Option Nat) :=
  (List.range count).map (parent? mapping count)

/-- The nodes that hang below a node, in increasing order. -/
def attached (parents : List (Option Nat)) (node : Nat) : List Nat :=
  parents.zipIdx.filterMap fun entry => if entry.1 = some node then some entry.2 else none

/-- The nodes reachable from the root with their depths, level by level. -/
def reached (parents : List (Option Nat)) : List (Nat × Nat) :=
  levelOrder (fun node => (attached parents node.1).map (·, node.2 + 1)) parents.length [(0, 0)]

/-- The node of a number: it keeps its children only where it is reached. -/
def node (parents : List (Option Nat)) (depths : List (Nat × Nat)) (functions : List String)
    (number : Nat)
    : CallNode :=
  {
    function := if number = 0 then none else functions[number - 1]?
    level := (depths.lookup number).getD 0
    children := if (depths.lookup number).isSome then attached parents number else []
  }

/-- The tree of a mapping over named functions, of which the first has number 1. Entries of the
mapping beyond the named functions are left out.
-/
def ofMapping (mapping : List Nat) (functions : List String) : CallTree :=
  let count := min mapping.length (functions.length + 1)
  let parents := parents mapping count
  { nodes := (List.range count).map (node parents (reached parents) functions) }

/-- The function of a node; none for the root and for numbers of no node. -/
def function? (tree : CallTree) (node : Nat) : Option String :=
  tree.nodes[node]?.bind (·.function)

def children (tree : CallTree) (node : Nat) : List Nat :=
  (tree.nodes[node]?.map (·.children)).getD []

def level (tree : CallTree) (node : Nat) : Nat := (tree.nodes[node]?.map (·.level)).getD 0

/-- All nodes reachable from the root, level by level. -/
def walk (tree : CallTree) : List Nat := levelOrder tree.children tree.nodes.length [0]

/-- The node reached from a node by taking the child at each position of a path. -/
def follow? (tree : CallTree) (node : Nat) : (path : List Nat) → Option Nat
  | [] => some node
  | position :: path => do tree.follow? (← (tree.children node)[position]?) path

/-- The nodes of the given functions, level by level. -/
def subtrees (tree : CallTree) (entryPoints : List String) : List Nat :=
  tree.walk.filter fun node => (tree.function? node).any entryPoints.contains

/-- Handles a node on the search for given functions: one of these joins what was found, and the
children of the node come next.
-/
def seek? (tree : CallTree) (entryPoints : List String) (number : Nat) (found : List Nat)
    : Option (List Nat × List Nat) := do
  let node ← tree.nodes[number]?
  let here := if node.function.any entryPoints.contains then [number] else []
  some (node.children, found ++ here)

/-- The nodes of the given functions, found with a queue that starts at the root. -/
def subtrees? (tree : CallTree) (entryPoints : List String) : Option (List Nat) :=
  (drain (tree.seek? entryPoints) tree.nodes.length [0] []).map Prod.snd

end CallTree

end MutationTesting
