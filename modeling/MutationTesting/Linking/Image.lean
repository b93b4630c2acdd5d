import MutationTesting.Linking.Resolver

/-!
Linking object files into an image. All definitions are placed in order; then every reference
that no object file defines is resolved, in the order of first use. A symbol that is defined
twice is an error; a reference that cannot be resolved is only noted.
-/

namespace MutationTesting

/-- What a symbol of an image stands for. -/
inductive Binding where
  | function (address : Address)
  | slot (handle : SlotRef)
deriving DecidableEq

/-- A symbol that stands for a slot, whichever it is. -/
@[match_pattern] abbrev Binding.trampoline {handle : SlotRef} : Binding := .slot handle

/-- Linked code. -/
structure Image where
  /-- The functions in the order of their addresses. -/
  functions : List Body := []
  symbols : List (String × Binding) := []
  /-- The references that nothing satisfies, each once. -/
  unresolved : List String := []
deriving Inhabited

/-- Why object files cannot be linked. -/
inductive LinkError where
  | duplicateSymbol (symbol first second : String)
deriving DecidableEq, Repr

def LinkError.message : LinkError → String
  | .duplicateSymbol symbol first second =>
      "symbol `" ++ symbol ++ "` is defined by both `" ++ first ++ "` and `" ++ second ++ "`"

def LinkError.kind : LinkError → String
  | .duplicateSymbol _ _ _ => "DuplicateSymbol"

namespace Image

def binding? (image : Image) (symbol : String) : Option Binding := image.symbols.lookup symbol

/-- Where the function of a symbol lies; none for trampolines. -/
def address? (image : Image) (symbol : String) : Option Address :=
  match image.binding? symbol with
  | some (.function address) => some address
  | some .trampoline | none => none

/-- The function that lies at an address. -/
def function? (image : Image) (raw : Nat) : Option Body :=
  (Address.index? raw).bind (image.functions[·]?)

/-- Places a function and binds its symbol. -/
def place (image : Image) (symbol : String) (body : Body) : Image :=
  {
    image with
    functions := image.functions ++ [body]
    symbols := image.symbols ++ [(symbol, .function (.ofIndex image.functions.length))]
  }

/-- All definitions with the names of their object files, in order. -/
def definitions (objects : List ObjectFile) : List (String × Definition) :=
  objects.flatMap fun object => object.definitions.map (object.name, ·)

/-- The first definition of a symbol that is already defined, where `earlier` lists the symbols
defined before with the names of their object files.
-/
def duplicate? (earlier : List (String × String)) : List (String × Definition) → Option LinkError
  | [] => none
  | (object, definition) :: rest =>
      match earlier.lookup definition.symbol with
      | some first => some (.duplicateSymbol definition.symbol first object)
      | none => duplicate? ((definition.symbol, object) :: earlier) rest

/-- Resolves one reference, unless it is bound or noted already. -/
def resolve (resolver : Resolver) (image : Image) (symbol : String) : Image :=
  if (image.binding? symbol).isSome || image.unresolved.contains symbol then
    image
  else
    match resolver symbol with
    | some (.function body) => image.place symbol body
    | some (.slot handle) => { image with symbols := image.symbols ++ [(symbol, .slot handle)] }
    | none => { image with unresolved := image.unresolved ++ [symbol] }

/-- The image of object files, with references resolved by the given policy. -/
def link (objects : List ObjectFile) (resolver : Resolver) : Except LinkError Image :=
  match duplicate? [] (definitions objects) with
  | some error => .error error
  | none =>
      let defined :=
        (definitions objects).foldl
          (fun image definition => image.place definition.2.symbol definition.2.body) {}
      .ok ((objects.flatMap (·.references)).foldl (resolve resolver) defined)

end Image

end MutationTesting
