import MutationTesting.Recording.CallTree

/-!
Building a tree from a mapping in three passes: functions are attached to their callers, levels are
given from the root on with a queue, and what was not visited is cut off. Each step looks up what it
needs and fails where that is missing or a level has no room in 32 bits; `CallTree.ofMapping` says
directly what the passes amount to.
-/

namespace MutationTesting

/-- The list with another item at a place; none beyond its end. -/
def replaceAt? (items : List α) (place : Nat) (item : α) : Option (List α) :=
  if place < items.length then some (items.set place item) else none

namespace CallTree

/-- The node of a number before anything is attached to it. -/
def bareNode? (functions : List String) (number : Nat) : Option CallNode :=
  if number = 0 then
    some { function := none, level := 0, children := [] }
  else do
    let function ← functions[number - 1]?
    some { function, level := 0, children := [] }

/-- The node below which a function with the given caller hangs, among `count` nodes. -/
def place? (mapping : List Nat) (count number noted : Nat) : Option Nat :=
  if noted = number ∨ count ≤ noted then
    some 0
  else do
    let outer ← mapping[noted]?
    some (if outer = 0 then 0 else noted)

/-- Attaches a function that was called to its node. -/
def attach? (mapping : List Nat) (nodes : List CallNode) (number : Nat)
    : Option (List CallNode) := do
  let noted ← mapping[number]?
  if noted = 0 then
    some nodes
  else
    let above ← place? mapping nodes.length number noted
    let node ← nodes[above]?
    replaceAt? nodes above { node with children := node.children ++ [number] }

/-- Nodes while their levels are being given, and which of them have been visited. -/
structure Descent where
  nodes : List CallNode
  visited : List Bool

/-- The level below another one, as far as it is a 32-bit number. -/
def nextLevel? (level : Nat) : Option Nat :=
  if level + 1 < UInt32.size then some (level + 1) else none

/-- Visits a child of a node on the given level. A child that is new gets its level and joins those
that were found.
-/
def visitChild? (level : Nat) (found : List Nat × Descent) (child : Nat)
    : Option (List Nat × Descent) := do
  if ← found.2.visited[child]? then
    some found
  else
    let visited ← replaceAt? found.2.visited child true
    let node ← found.2.nodes[child]?
    let level ← nextLevel? level
    let nodes ← replaceAt? found.2.nodes child { node with level }
    some (found.1 ++ [child], { nodes, visited })

/-- Visits the children of a node. -/
def descend? (number : Nat) (descent : Descent) : Option (List Nat × Descent) := do
  let node ← descent.nodes[number]?
  node.children.foldlM (visitChild? node.level) ([], descent)

/-- The node with those children only that were visited. -/
def prune? (visited : List Bool) (node : CallNode) : Option CallNode := do
  let children ← node.children.filterM (visited[·]?)
  some { node with children }

/-- Builds the tree of a mapping over named functions, of which the first has number 1. -/
def build? (mapping : List Nat) (functions : List String) : Option CallTree := do
  let count := min mapping.length (functions.length + 1)
  let bare ← (List.range count).mapM (bareNode? functions)
  let attached ← (List.range' 1 (count - 1)).foldlM (attach? mapping) bare
  let visited ← replaceAt? (List.replicate count false) 0 true
  let (_, descent) ← drain descend? count [0] { nodes := attached, visited }
  let nodes ← descent.nodes.mapM (prune? descent.visited)
  some { nodes }

end CallTree

end MutationTesting
