import MutationTesting.Program.Body

/-!
Object files: the functions that a unit defines and the symbols that it needs from elsewhere.
-/

namespace MutationTesting

/-- A symbol and the code of its function. -/
structure Definition where
  symbol : String
  body : Body

/-- A unit of a program. -/
structure ObjectFile where
  name : String
  definitions : List Definition := []
  /-- The symbols that the unit needs, each once. -/
  references : List String := []
deriving Inhabited

namespace ObjectFile

/-- Adds a definition, also of a symbol that the unit defines already. -/
def define (object : ObjectFile) (symbol : String) (body : Body) : ObjectFile :=
  { object with definitions := object.definitions ++ [{ symbol, body }] }

/-- Adds a needed symbol unless it is listed already. -/
def reference (object : ObjectFile) (symbol : String) : ObjectFile :=
  if object.references.contains symbol then
    object
  else
    { object with references := object.references ++ [symbol] }

def defines (object : ObjectFile) (symbol : String) : Bool :=
  object.definitions.any (·.symbol == symbol)

end ObjectFile

end MutationTesting
