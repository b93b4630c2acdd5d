/-!
Recording who called whom. Functions are numbered from 1; the mapping holds, for each of them,
0 while it has not been called, its own number once it has been called from outside, and
otherwise the function that called it first. Number 0 stands for whatever is not identified.
-/

namespace MutationTesting

/-- The first callers recorded so far and the functions that are being executed, the innermost
one first.
-/
structure CallRecorder where
  mapping : List Nat
  stack : List Nat
deriving DecidableEq, Inhabited

/-- Something that a running function reports. -/
inductive CallEvent where
  | enter (function : Nat)
  | leave (function : Nat)
  | reset
deriving DecidableEq, Repr

namespace CallRecorder

/-- A recorder of numbered functions that has seen nothing. -/
def new (functions : Nat) : CallRecorder :=
  { mapping := List.replicate (functions + 1) 0, stack := [] }

/-- A function is entered. Called from outside, it becomes its own caller, whatever was noted
before; otherwise its first caller is noted. A number beyond the mapping is ignored.
-/
def enter (recorder : CallRecorder) (function : Nat) : CallRecorder :=
  match recorder.mapping[function]? with
  | none => recorder
  | some noted =>
      let mapping :=
        match recorder.stack with
        | [] => recorder.mapping.set function function
        | caller :: _ =>
            if noted = 0 then recorder.mapping.set function caller else recorder.mapping
      { mapping, stack := function :: recorder.stack }

/-- A function is left: the innermost one ends, whichever number was reported. -/
def leave (recorder : CallRecorder) (_function : Nat) : CallRecorder :=
  { recorder with stack := recorder.stack.tail }

def reset (recorder : CallRecorder) : CallRecorder :=
  { mapping := recorder.mapping.map fun _ => 0, stack := [] }

def step (recorder : CallRecorder) : CallEvent → CallRecorder
  | .enter function => recorder.enter function
  | .leave function => recorder.leave function
  | .reset => recorder.reset

def run (recorder : CallRecorder) (events : List CallEvent) : CallRecorder :=
  events.foldl step recorder

/-- The states before the first event and after each one. -/
def states (recorder : CallRecorder) : List CallEvent → List CallRecorder
  | [] => [recorder]
  | event :: rest => recorder :: (recorder.step event).states rest

end CallRecorder

end MutationTesting
