/-!
How running a test ended. Each status has the name used in files and the label shown to people.
-/

namespace MutationTesting

/-- How running a test ended, or why it was not run. -/
inductive ExecutionStatus where
  /-- The test could not be run at all. -/
  | invalid
  | failed
  | passed
  | timedout
  | crashed
  /-- The test was skipped, since another one had already killed the mutant. -/
  | failFast
  /-- The test was only planned. -/
  | dryRun
deriving DecidableEq, Repr

namespace ExecutionStatus

/-- All statuses, in the order of their numbers. -/
def all : List ExecutionStatus :=
  [.invalid, .failed, .passed, .timedout, .crashed, .failFast, .dryRun]

/-- A result that says nothing yet is invalid. -/
instance : Inhabited ExecutionStatus := ⟨.invalid⟩

def name : ExecutionStatus → String
  | .invalid => "invalid"
  | .failed => "failed"
  | .passed => "passed"
  | .timedout => "timedout"
  | .crashed => "crashed"
  | .failFast => "fail-fast"
  | .dryRun => "dry-run"

def ofName? (text : String) : Option ExecutionStatus := all.find? (·.name == text)

def label : ExecutionStatus → String
  | .invalid => "Invalid"
  | .failed => "Failed"
  | .passed => "Passed"
  | .timedout => "Timedout"
  | .crashed => "Crashed"
  | .failFast => "FailFast"
  | .dryRun => "DryRun"

/-- Tells whether the test ran and passed. -/
def isPassed (status : ExecutionStatus) : Bool := status == .passed

def number : ExecutionStatus → Nat
  | .invalid => 0
  | .failed => 1
  | .passed => 2
  | .timedout => 3
  | .crashed => 4
  | .failFast => 5
  | .dryRun => 6

end ExecutionStatus

end MutationTesting
