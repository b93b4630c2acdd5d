import MutationTesting.Document.Value

/-!
Building the tables of a TOML document from its lines. A table remembers how it came about:
by a header or inline, as a step of a header's path, or as a step of a dotted name. Names are
never given two meanings, and a table that is complete is never added to from elsewhere.
-/

namespace MutationTesting.Document.Toml

/-- How a table came about. -/
inductive TableOrigin where
  /-- By its own header, or as an inline table. -/
  | explicit
  /-- As a step on the path of a header. -/
  | implied
  /-- As a step of a dotted name. -/
  | dotted
deriving DecidableEq, Repr

/-- What a name stands for while a document is being read. -/
inductive Item where
  | value (value : Value)
  | table (origin : TableOrigin) (entries : List (String × Item))
  /-- Tables with repeated headers, the latest one first. -/
  | tables (latest : List (String × Item)) (earlier : List (List (String × Item)))
deriving Inhabited

/-- Named items in the order in which they were added. -/
abbrev Entries : Type := List (String × Item)

namespace Entries

def get? (entries : Entries) (name : String) : Option Item := entries.lookup name

/-- Puts an item in the place of the one of the same name, or at the end. -/
def set (entries : Entries) (name : String) (item : Item) : Entries :=
  if (entries.get? name).isSome then
    entries.map fun entry => if entry.1 = name then (name, item) else entry
  else
    entries ++ [(name, item)]

/-- Adds a new name at the end; none when it is taken. -/
def add? (entries : Entries) (name : String) (item : Item) : Option Entries :=
  if (entries.get? name).isSome then none else some (entries ++ [(name, item)])

/-- Changes the table at the end of a header's path. Missing tables are made on the way, and of
repeated tables the latest one is entered.
-/
def updateAt (change : Entries → Option (Entries × α))
    : (path : List String) → Entries → Option (Entries × α)
  | [], entries => change entries
  | step :: path, entries => do
      match entries.get? step with
      | none => do
          let (made, answer) ← updateAt change path []
          pure (entries.set step (.table .implied made), answer)
      | some (.value _) => none
      | some (.table origin inner) => do
          let (inner, answer) ← updateAt change path inner
          pure (entries.set step (.table origin inner), answer)
      | some (.tables latest earlier) => do
          let (latest, answer) ← updateAt change path latest
          pure (entries.set step (.tables latest earlier), answer)

/-- Adds a value under a dotted name whose first steps are given as a path, to a table of the
given origin. The steps may enter tables that came about as steps themselves, and the value must
end up in a table made by dotted names.
-/
def addDotted? (origin : TableOrigin) (name : String) (value : Value)
    : (path : List String) → Entries → Option Entries
  | [], entries => if origin = .dotted then entries.add? name (.value value) else none
  | step :: path, entries => do
      match entries.get? step with
      | none => do
          let made ← addDotted? .dotted name value path []
          pure (entries.set step (.table .dotted made))
      | some (.value _) => none
      | some (.table .explicit _) => none
      | some (.table origin inner) => do
          let inner ← addDotted? origin name value path inner
          pure (entries.set step (.table origin inner))
      | some (.tables latest earlier) => do
          let latest ← addDotted? .explicit name value path latest
          pure (entries.set step (.tables latest earlier))

/-- Adds a value under a name of one or more steps to the table that lines are being added to.
-/
def addLine? (entries : Entries) (path : List String) (name : String) (value : Value)
    : Option Entries :=
  if path.isEmpty then entries.add? name (.value value)
  else addDotted? .explicit name value path entries

end Entries

mutual

def Item.toValue : Item → Value
  | .value value => value
  | .table _ entries => .table (entriesToValues entries)
  | .tables latest earlier => .list (tablesToValues earlier ++ [.table (entriesToValues latest)])

def entriesToValues : List (String × Item) → List (String × Value)
  | [] => []
  | (name, item) :: rest => (name, item.toValue) :: entriesToValues rest

/-- The values of repeated tables, which are listed with the latest one first. -/
def tablesToValues : List (List (String × Item)) → List Value
  | [] => []
  | entries :: rest => tablesToValues rest ++ [.table (entriesToValues entries)]

end

/-- Where the lines of a document go: the table that was begun last is kept apart from the root
until the next header.
-/
structure Progress where
  root : Entries := []
  path : List String := []
  isRepeated : Bool := false
  current : Entries := []

namespace Progress

/-- Puts the current table into the root. -/
def close? (progress : Progress) : Option Entries :=
  match progress.path.getLast? with
  | none => some progress.current
  | some name =>
      let insert (entries : Entries) : Option (Entries × Unit) :=
        if progress.isRepeated then
          match entries.get? name with
          | none => some (entries.set name (.tables progress.current []), ())
          | some (.tables latest earlier) =>
              some (entries.set name (.tables progress.current (latest :: earlier)), ())
          | some _ => none
        else
          (entries.add? name (.table .explicit progress.current)).map (·, ())
      (progress.root.updateAt insert progress.path.dropLast).map (·.1)

/-- Begins the table of a header. A table that is only implied so far is taken over with what it
holds, and loses its place.
-/
def openTable? (progress : Progress) (path : List String) : Option Progress := do
  let name ← path.getLast?
  let root ← progress.close?
  let (root, current) ← root.updateAt
    (fun entries =>
      match entries.get? name with
      | none => some (entries, [])
      | some (.table .implied inner) => some (entries.filter (·.1 != name), inner)
      | some _ => none)
    path.dropLast
  pure { root, path, current }

/-- Begins one more of the repeated tables of a header. -/
def openRepeated? (progress : Progress) (path : List String) : Option Progress := do
  let name ← path.getLast?
  let root ← progress.close?
  let (root, _) ← root.updateAt
    (fun entries =>
      match entries.get? name with
      | none => some (entries, ())
      | some (.tables _ _) => some (entries, ())
      | some _ => none)
    path.dropLast
  pure { root, path, isRepeated := true }

def addLine? (progress : Progress) (path : List String) (name : String) (value : Value)
    : Option Progress := do
  pure { progress with current := (← progress.current.addLine? path name value) }

end Progress

end MutationTesting.Document.Toml
