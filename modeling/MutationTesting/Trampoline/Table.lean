import MutationTesting.Linking.Address
import MutationTesting.Naming.Mangler

/-!
Trampolines: slots through which calls reach a function or, while it is active, a mutant of it.
A slot is empty until it is pointed somewhere. Fixing a table up points every slot at its
own function and remembers that address; activating a mutant changes one slot until the
activation is released.
-/

namespace MutationTesting

/-- One trampoline. -/
structure Slot where
  /-- The symbol that callers use. -/
  name : String
  /-- The symbol of the function that the slot belongs to. -/
  function : String
  /-- Where calls go at present. -/
  target : Option Address := none
  /-- Where that function lies, once that is known. -/
  fixup : Option Address := none
deriving DecidableEq, Inhabited

/-- Tells whether calls through a slot reach its own function. -/
def Slot.reachesFunction (slot : Slot) : Bool := slot.fixup.isSome && slot.target == slot.fixup

/-- The slot of a function, not yet pointed anywhere. -/
def Slot.ofFunction (mangler : Mangler) (function : String) : Slot :=
  { name := mangler.mangle (trampolineName function), function := mangler.mangle function }

/-- Why a trampoline cannot be used. -/
inductive TrampolineError where
  | unregistered (name : String)
  /-- The function of a slot is not in the program. -/
  | unresolvedFunction (function trampoline : String)
deriving DecidableEq, Repr

def TrampolineError.message : TrampolineError → String
  | .unregistered name => "trampoline `" ++ name ++ "` was never registered"
  | .unresolvedFunction function trampoline =>
      "original function `" ++ function ++ "` of trampoline `" ++ trampoline
        ++ "` is not in the loaded program"

def TrampolineError.kind : TrampolineError → String
  | .unregistered _ => "Unregistered"
  | .unresolvedFunction _ _ => "UnresolvedOriginal"

/-- Slots in the order in which their functions were registered. -/
structure TrampolineTable where
  slots : List Slot := []
deriving DecidableEq, Inhabited

/-- A handle to a slot, which is told by its table and its name. A program numbers the tables that
it uses, from its own one on.
-/
structure SlotRef where
  table : Nat
  name : String
deriving DecidableEq

/-- The handle to a slot of the program's own table. -/
def SlotRef.own (name : String) : SlotRef := { table := 0, name }

/-- A slot that a mutant occupies, and where its calls went before. -/
structure Activation where
  name : String
  previous : Option Address
deriving DecidableEq, Inhabited

namespace TrampolineTable

def find? (table : TrampolineTable) (name : String) : Option Slot :=
  table.slots.find? (·.name == name)

/-- The slot of a trampoline name, or the error for a name without one. -/
def find (table : TrampolineTable) (name : String) : Except TrampolineError Slot :=
  match table.find? name with
  | some slot => .ok slot
  | none => .error (.unregistered name)

/-- Adds a slot unless its name is taken. -/
def register (table : TrampolineTable) (slot : Slot) : TrampolineTable :=
  if (table.find? slot.name).isSome then table else { slots := table.slots ++ [slot] }

def ofFunctions (mangler : Mangler) (functions : List String) : TrampolineTable :=
  functions.foldl (fun table function => table.register (.ofFunction mangler function)) {}

def setTarget (table : TrampolineTable) (name : String) (target : Option Address)
    : TrampolineTable :=
  { slots := table.slots.map fun slot => if slot.name = name then { slot with target } else slot }

/-- Points a slot at an address until the activation is released. -/
def activate (table : TrampolineTable) (slot : Slot) (address : Address)
    : TrampolineTable × Activation :=
  (table.setTarget slot.name (some address), { name := slot.name, previous := slot.target })

/-- Points a slot back to where it pointed before its activation. -/
def release (table : TrampolineTable) (activation : Activation) : TrampolineTable :=
  table.setTarget activation.name activation.previous

/-- Points slots at their own functions up to the first one whose function is missing. -/
def fixupSlots (address? : String → Option Address)
    : List Slot → List Slot × Option TrampolineError
  | [] => ([], none)
  | slot :: rest =>
      match address? slot.function with
      | none => (slot :: rest, some (.unresolvedFunction slot.function slot.name))
      | some address =>
          let (fixed, error) := fixupSlots address? rest
          ({ slot with target := some address, fixup := some address } :: fixed, error)

/-- Fixes a table up for a program that has its functions at the given addresses. After an
error the slots before the one at fault are fixed up and all others are as they were.
-/
def fixup (table : TrampolineTable) (address? : String → Option Address)
    : TrampolineTable × Option TrampolineError :=
  let (slots, error) := fixupSlots address? table.slots
  ({ slots }, error)

end TrampolineTable

/-- The slot that a handle has among tables. -/
def SlotRef.slot? (handle : SlotRef) (tables : List TrampolineTable) : Option Slot :=
  tables[handle.table]?.bind (·.find? handle.name)

end MutationTesting
