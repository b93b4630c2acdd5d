/-!
The ways in which running code can fail. A fault is an error that the caller of a function can
see and recover from; a panic unwinds the whole run.
-/

namespace MutationTesting

/-- A fault that running code reports to its caller. -/
inductive Fault where
  | unresolvedSymbol (name : String)
  | emptyTrampoline (name : String)
  | invalidAddress (raw : Nat)
  | abort (reason : String)
deriving DecidableEq, Repr

def Fault.message : Fault → String
  | .unresolvedSymbol name => "call to unresolved symbol `" ++ name ++ "`"
  | .emptyTrampoline name => "trampoline `" ++ name ++ "` has no target"
  | .invalidAddress raw =>
      "invalid call target 0x" ++ String.ofList (Nat.toDigits 16 raw)
  | .abort reason => "abort: " ++ reason

def Fault.kind : Fault → String
  | .unresolvedSymbol _ => "UnresolvedSymbol"
  | .emptyTrampoline _ => "EmptyTrampoline"
  | .invalidAddress _ => "InvalidAddress"
  | .abort _ => "Abort"

/-- What a panic carries. -/
inductive PanicPayload where
  | text (message : String)
  | other
deriving DecidableEq, Repr

def PanicPayload.message : PanicPayload → String
  | .text message => message
  | .other => "Unknown panic type"

end MutationTesting
