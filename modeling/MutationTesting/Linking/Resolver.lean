import MutationTesting.Linking.ObjectFile
import MutationTesting.Trampoline.Table

/-!
What may satisfy a reference that no object file defines: functions of the host and trampolines.
-/

namespace MutationTesting

/-- Functions that live outside the object files, by symbol. -/
structure HostLibrary where
  functions : List (String × Body) := []
deriving Inhabited

namespace HostLibrary

/-- Adds a function in the place of an earlier one of the same symbol. -/
def insert (library : HostLibrary) (symbol : String) (body : Body) : HostLibrary :=
  { functions := library.functions.filter (·.1 != symbol) ++ [(symbol, body)] }

/-- The library of the given functions; of two with one symbol the later one counts. -/
def ofList (functions : List (String × Body)) : HostLibrary :=
  functions.foldl (fun library function => library.insert function.1 function.2) {}

def get? (library : HostLibrary) (symbol : String) : Option Body :=
  library.functions.lookup symbol

def size (library : HostLibrary) : Nat := library.functions.length

end HostLibrary

/-- What a reference is resolved to: code, or a slot. -/
inductive Resolution where
  | function (body : Body)
  | slot (handle : SlotRef)

/-- A reference that is resolved to a slot, whichever it is. -/
@[match_pattern] abbrev Resolution.trampoline {handle : SlotRef} : Resolution := .slot handle

/-- A policy that resolves references; none leaves them unresolved. -/
abbrev Resolver : Type := String → Option Resolution

namespace Resolver

/-- Only object files may satisfy a reference. -/
def objectsOnly : Resolver := fun _ => none

/-- Overrides count first, then the functions of the host process. -/
def native (overrides process : HostLibrary) : Resolver := fun symbol =>
  ((overrides.get? symbol).or (process.get? symbol)).map .function

/-- The slots of a table count first, by the handles that they have, then another policy. -/
def withSlots (handle : String → SlotRef) (table : TrampolineTable) (fallback : Resolver)
    : Resolver := fun symbol =>
  if (table.find? symbol).isSome then some (.slot (handle symbol)) else fallback symbol

/-- The slots of the program's own table count first, then another policy. -/
def withTrampolines (table : TrampolineTable) (fallback : Resolver) : Resolver :=
  withSlots .own table fallback

end Resolver

end MutationTesting
