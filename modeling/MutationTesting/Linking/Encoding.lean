import MutationTesting.Linking.Runner
import MutationTesting.Program.Encoding

/-!
Object files and runners in documents.
-/

namespace MutationTesting

open Document

/-- Symbols with the bodies of their functions. -/
def namedBodies? : Value → Option (List (String × Body)) :=
  Value.list? (Value.pair? Value.text? Body.ofValue?)

/-- An object file by its name, its definitions and the symbols that it needs. -/
def ObjectFile.ofValue? (value : Value) : Option ObjectFile := do
  let name ← value.required "name" Value.text?
  let definitions ← value.withDefault "defs" namedBodies? []
  let references ← value.withDefault "refs" (Value.list? Value.text?) []
  let defined : ObjectFile :=
    definitions.foldl (fun object definition => object.define definition.1 definition.2)
      { name }
  pure (references.foldl ObjectFile.reference defined)

/-- The one character in front of symbols. -/
def Mangler.ofValue? (value : Value) : Option Mangler := do
  match (← value.text?).toList with
  | [first] => some { globalPrefix := some first }
  | _ => none

/-- A runner by its host functions and the character in front of its symbols. -/
def Runner.ofValue? (value : Value) : Option Runner := do
  pure
    {
      overrides := .ofList (← value.withDefault "overrides" namedBodies? [])
      process := .ofList (← value.withDefault "process" namedBodies? [])
      mangler := ← value.withDefault "prefix" Mangler.ofValue? {}
    }

end MutationTesting
