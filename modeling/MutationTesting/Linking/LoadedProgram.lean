import MutationTesting.Execution.UnitTest
import MutationTesting.Linking.Image
import MutationTesting.Program.Evaluation

/-!
Programs that can be called. A call goes to the function bound to a symbol, to wherever the
slot of a trampoline points, or to the function at an address. Running code cannot change what
calls go to.
-/

namespace MutationTesting

/-- An image together with the slots that its trampolines stand for. -/
structure LoadedProgram where
  image : Image
  trampolines : TrampolineTable
  /-- Further tables that slots may be taken from, as far as a resolver has any. -/
  foreign : List TrampolineTable := []
deriving Inhabited

namespace LoadedProgram

def bodyAt (program : LoadedProgram) (raw : Nat) : Except Fault Body :=
  match program.image.function? raw with
  | some body => .ok body
  | none => .error (.invalidAddress raw)

/-- Where a slot of the program's own table leads. -/
def slotTarget? (program : LoadedProgram) (name : String) : Option Address :=
  (program.trampolines.find? name).bind (·.target)

/-- All tables by their numbers. -/
def tables (program : LoadedProgram) : List TrampolineTable :=
  program.trampolines :: program.foreign

/-- The slot of a handle, as it is at present. -/
def slot? (program : LoadedProgram) (handle : SlotRef) : Option Slot :=
  handle.slot? program.tables

/-- Where the slot of a handle leads. -/
def target? (program : LoadedProgram) (handle : SlotRef) : Option Address :=
  (program.slot? handle).bind (·.target)

@[simp] theorem target?_own (program : LoadedProgram) (name : String)
    : program.target? (.own name) = program.slotTarget? name :=
  rfl

/-- The code that a call reaches. -/
def callee (program : LoadedProgram) : CallTarget → Except Fault Body
  | .address raw => program.bodyAt raw
  | .symbol name =>
      match program.image.binding? name with
      | some (.function address) => program.bodyAt address.raw
      | some (.slot handle) =>
          match program.target? handle with
          | some address => program.bodyAt address.raw
          | none => .error (.emptyTrampoline name)
      | none => .error (.unresolvedSymbol name)

/-- A call that may nest further calls to the given depth. -/
def callWithin (program : LoadedProgram) : (depth : Nat) → CallHandler
  | 0, _, _ => Exec.stop .unfinished
  | depth + 1, target, args =>
      match program.callee target with
      | .ok body => body.eval (program.callWithin depth) args
      | .error fault => Exec.fault fault

def deepestCall : Nat := 3000

def call (program : LoadedProgram) : CallHandler := program.callWithin deepestCall

end LoadedProgram

/-- What calling the entry point of a test says about it. -/
def ExecutionStatus.ofReturned (value : Int64) : ExecutionStatus :=
  if value = 0 then .passed else .failed

def UnitTest.run (test : UnitTest) (program : LoadedProgram) : Exec ExecutionStatus :=
  match test.action with
  | .report status => pure status
  | .callEntry => do
      match ← Exec.catchFault (program.call (.symbol test.entry) []) with
      | .ok value => pure (.ofReturned value)
      | .error _ => pure .crashed

end MutationTesting
