import MutationTesting.Mutation.Point

/-!
What a test said about a mutant.
-/

namespace MutationTesting

/-- The outcome of one test while one mutant was active. -/
structure MutationResult where
  result : ExecutionResult
  point : MutationPoint
  test : UnitTest
  distance : Nat
deriving DecidableEq, Inhabited

/-- A test with its outcome on the unmutated program. -/
structure BaselineRun where
  test : UnitTest
  result : ExecutionResult
deriving DecidableEq, Inhabited

namespace BaselineRun

/-- The test with this outcome as its baseline. -/
def baselinedTest (run : BaselineRun) : UnitTest := run.test.rebaselined run.result

end BaselineRun

/-- The tests that passed, with their outcomes as baselines. No other test can tell a mutant
from the unmutated program.
-/
def passingTests (runs : List BaselineRun) : List UnitTest :=
  (runs.filter (·.result.status.isPassed)).map (·.baselinedTest)

end MutationTesting
