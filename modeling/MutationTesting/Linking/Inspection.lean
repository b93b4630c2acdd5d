import MutationTesting.Linking.Runner
import MutationTesting.Text.Quoted

/-!
Diagnostic output of what is linked and of how it is linked.
-/

namespace MutationTesting

/-- A record by its name and its fields. -/
def describeRecord (name : String) (fields : List (String × String)) : String :=
  name ++ " \x7b " ++ ", ".intercalate (fields.map fun field => field.1 ++ ": " ++ field.2)
    ++ " \x7d"

def describeNames (names : List String) : String := Text.bracketed (names.map Text.quote)

/-- The spelling rule of a platform. -/
def Mangler.describe (mangler : Mangler) : String :=
  describeRecord "Mangler"
    [("global_prefix", Text.optional (mangler.globalPrefix.map Text.quoteChar))]

/-- The functions of a library by their names in order. -/
def HostLibrary.describe (library : HostLibrary) : String :=
  let names := (library.functions.map (·.1)).mergeSort fun left right => !(right < left)
  describeRecord "HostSymbols" [("functions", describeNames names)]

/-- A definition without its code. -/
def Definition.describe (definition : Definition) : String :=
  "FunctionDefinition \x7b symbol: " ++ Text.quote definition.symbol ++ ", .. \x7d"

def ObjectFile.describe (object : ObjectFile) : String :=
  describeRecord "ObjectFile"
    [
      ("name", Text.quote object.name),
      ("definitions", Text.bracketed (object.definitions.map (·.describe))),
      ("references", describeNames object.references)
    ]

/-- An image by its size and what it still lacks. -/
def Image.describe (image : Image) : String :=
  describeRecord "LoadedProgram"
    [
      ("functions", toString image.functions.length),
      ("symbols", toString image.symbols.length),
      ("unresolved", describeNames image.unresolved)
    ]

/-- The place where an image is linked, which may be empty. -/
def describeLinked (image : Option Image) : String :=
  describeRecord "JitEngine" [("program", Text.optional (image.map (·.describe)))]

/-- A slot with the number that it holds, which is zero while it is empty. -/
def Slot.describe (slot : Slot) : String :=
  "(" ++ Text.quote slot.name ++ ", " ++ Text.quote slot.function ++ ", "
    ++ toString (slot.target.elim 0 (·.raw)) ++ ")"

def TrampolineTable.describe (table : TrampolineTable) : String :=
  Text.bracketed (table.slots.map (·.describe))

end MutationTesting
