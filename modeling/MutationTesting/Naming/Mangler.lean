/-!
How symbols are spelled. A platform may put a character in front of every symbol; a name that
starts with the verbatim marker is already spelled the way it should be.
-/

namespace MutationTesting

/-- The spelling rule of a platform: the character in front of its symbols, if any. -/
structure Mangler where
  globalPrefix : Option Char := none
deriving DecidableEq, Inhabited

namespace Mangler

/-- The rule of the platform that tests run on: symbols are spelled like their names. -/
def host : Mangler := {}

/-- The character in front of a name that must not be changed. -/
def verbatimMarker : Char := '\x01'

def mangle (mangler : Mangler) (name : String) : String :=
  match name.toList with
  | [] => spell name
  | first :: verbatim =>
      if first = verbatimMarker then String.ofList verbatim else spell name
where
  /-- The symbol of a name without the marker. -/
  spell (name : String) : String :=
    match mangler.globalPrefix with
    | some first => String.ofList (first :: name.toList)
    | none => name

end Mangler

/-- The name of the slot through which callers reach a function. -/
def trampolineName (function : String) : String := "_" ++ function ++ "_trampoline"

end MutationTesting
