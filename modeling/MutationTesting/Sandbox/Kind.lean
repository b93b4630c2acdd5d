/-!
The kinds of isolation that can be asked for.
-/

namespace MutationTesting

/-- How runs are kept apart from the program that starts them. -/
inductive SandboxKind where
  /-- Every run has a process of its own. -/
  | fork
  /-- Runs share the process that starts them. -/
  | null
deriving DecidableEq, Repr

namespace SandboxKind

def all : List SandboxKind := [.fork, .null]

/-- Runs are isolated unless something else is asked for. -/
instance : Inhabited SandboxKind := ⟨.fork⟩

def name : SandboxKind → String
  | .fork => "fork"
  | .null => "null"

def ofName? (text : String) : Option SandboxKind := all.find? (·.name == text)

/-- What is said about a name of no kind. -/
def unknownMessage (text : String) : String :=
  "unknown sandbox `" ++ text ++ "` (expected `fork` or `null`)"

end SandboxKind

end MutationTesting
