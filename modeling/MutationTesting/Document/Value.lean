/-!
Structured documents: the values that configuration files and results are written as, and how they
are taken apart. A reader answers none where a value is not what it is looking for; a name without a
value and a name with null say the same.
-/

namespace MutationTesting.Document

inductive Value where
  | null
  | bool (value : Bool)
  | integer (value : Int)
  | decimal (value : Float)
  | text (value : String)
  | list (items : List Value)
  /-- Named values in the order in which they are written. -/
  | table (entries : List (String × Value))
  /-- A date, a time or both. -/
  | moment
  /-- A value that can be passed over but not read. -/
  | unreadable
deriving Inhabited

namespace Value

mutual

/-- How deep lists and tables are nested in a value. -/
def depth : Value → Nat
  | .list items => depthOfItems items + 1
  | .table entries => depthOfEntries entries + 1
  | _ => 1

def depthOfItems : List Value → Nat
  | [] => 0
  | item :: rest => max item.depth (depthOfItems rest)

def depthOfEntries : List (String × Value) → Nat
  | [] => 0
  | (_, value) :: rest => max value.depth (depthOfEntries rest)

end

def text? : Value → Option String
  | .text value => some value
  | _ => none

def bool? : Value → Option Bool
  | .bool value => some value
  | _ => none

def integer? : Value → Option Int
  | .integer value => some value
  | _ => none

def int64? (value : Value) : Option Int64 := do
  let number ← value.integer?
  if Int64.minValue.toInt ≤ number ∧ number ≤ Int64.maxValue.toInt then
    some (.ofInt number)
  else
    none

/-- A natural number below a limit. -/
def natural? (limit : Nat) (value : Value) : Option Nat := do
  let number ← value.integer?
  if 0 ≤ number ∧ number < limit then some number.toNat else none

def size? (value : Value) : Option Nat := value.natural? UInt64.size

def word? (value : Value) : Option Nat := value.natural? UInt32.size

def byte? (value : Value) : Option UInt8 := (value.natural? 256).map .ofNat

/-- One of several choices by its name. -/
def choice? (ofName? : String → Option α) (value : Value) : Option α := value.text?.bind ofName?

/-- A list of items that are all read in the same way. -/
def list? (item : Value → Option α) : Value → Option (List α)
  | .list items => items.mapM item
  | _ => none

/-- A list of exactly two items. -/
def pair? {α β : Type} (first : Value → Option α) (second : Value → Option β)
    : Value → Option (α × β)
  | .list [left, right] => return (← first left, ← second right)
  | _ => none

/-- The value of a name, unless it is null. -/
def field? (value : Value) (name : String) : Option Value :=
  match value with
  | .table entries =>
      match entries.lookup name with
      | some .null => none
      | found => found
  | _ => none

/-- What a name must stand for. -/
def required (value : Value) (name : String) (read : Value → Option α) : Option α :=
  (value.field? name).bind read

/-- What a name stands for, if it stands for anything. -/
def optional (value : Value) (name : String) (read : Value → Option α) : Option (Option α) :=
  match value.field? name with
  | none => some none
  | some found => (read found).map some

/-- What a name stands for, or something else where it stands for nothing. -/
def withDefault (value : Value) (name : String) (read : Value → Option α) (other : α)
    : Option α :=
  (value.optional name read).map (·.getD other)

end Value

end MutationTesting.Document
