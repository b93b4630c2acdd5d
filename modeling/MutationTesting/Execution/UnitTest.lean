import MutationTesting.Execution.Status
import MutationTesting.Time.Duration

/-!
Unit tests: where a test starts, the outcome of running it once, and what it did on the program as
it is.
-/

namespace MutationTesting

/-- How a run ended, how long it took and what it wrote. -/
structure ExecutionResult where
  status : ExecutionStatus := .invalid
  runningTime : Duration := .zero
  stdout : String := ""
  stderr : String := ""
deriving DecidableEq, Inhabited

namespace ExecutionResult

/-- The result of a test that was skipped because the mutant was already killed. -/
def failFast : ExecutionResult := { status := .failFast }

/-- The result of a test that was only planned; its time is the one it would have been given.
-/
def dryRun (timeout : Duration) : ExecutionResult :=
  { status := .dryRun, runningTime := timeout }

end ExecutionResult

/-- What running a test means. -/
inductive TestAction where
  /-- Call the entry point: zero passes, any other value fails, a fault is a crash. -/
  | callEntry
  /-- Report a fixed status and call nothing. -/
  | report (status : ExecutionStatus)
deriving DecidableEq

/-- A test: its name, its entry point and its result on the unmutated program. -/
structure UnitTest where
  id : String
  entry : String := ""
  baseline : ExecutionResult := {}
  action : TestAction := .callEntry
deriving DecidableEq, Inhabited

/-- The same test with another baseline. -/
def UnitTest.rebaselined (test : UnitTest) (baseline : ExecutionResult) : UnitTest :=
  { test with baseline }

end MutationTesting
