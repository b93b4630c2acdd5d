import MutationTesting.Mutation.Result

/-!
The summary of a run: what became of every mutant. Results are grouped by the identity of their
points in the order of first appearance. A mutant is killed by a test that fails, crashes or
overruns, also by one that was skipped because the mutant had already been killed; it survives
when only passing tests decide.
-/

namespace MutationTesting

/-- What became of a mutant. -/
inductive MutantStatus where
  | killed
  | survived
  /-- No test decided. -/
  | notExecuted
deriving DecidableEq, Repr, Inhabited

namespace MutantStatus

def name : MutantStatus → String
  | .killed => "killed"
  | .survived => "survived"
  | .notExecuted => "not-executed"

def label : MutantStatus → String
  | .killed => "Killed"
  | .survived => "Survived"
  | .notExecuted => "NotExecuted"

end MutantStatus

/-- Tells whether a test with the given status kills the mutant that it ran on. -/
def ExecutionStatus.kills : ExecutionStatus → Bool
  | .failed | .crashed | .timedout | .failFast => true
  | .invalid | .passed | .dryRun => false

/-- What one test said about a mutant. -/
structure TestOutcome where
  test : String
  distance : Nat
  status : ExecutionStatus
  /-- The running time in milliseconds. -/
  millis : Nat
deriving DecidableEq, Inhabited

def TestOutcome.ofResult (result : MutationResult) : TestOutcome :=
  {
    test := result.test.id
    distance := result.distance
    status := result.result.status
    millis := result.result.runningTime.toMillis
  }

/-- What the statuses of the tests of a mutant say about it. -/
def verdict (statuses : List ExecutionStatus) : MutantStatus :=
  if statuses.any (·.kills) then .killed
  else if statuses.any (·.isPassed) then .survived
  else .notExecuted

/-- A mutant in a summary. -/
structure MutantOutcome where
  id : String
  module : String
  function : String
  mutator : Mutator
  location : Option SourceLocation
  tests : List TestOutcome
deriving DecidableEq, Inhabited

namespace MutantOutcome

/-- A mutant whose point first appears in the given result. -/
def ofResult (result : MutationResult) : MutantOutcome :=
  {
    id := result.point.uniqueId
    module := result.point.module
    function := result.point.function
    mutator := result.point.mutator
    location := result.point.location
    tests := [.ofResult result]
  }

def status (mutant : MutantOutcome) : MutantStatus := verdict (mutant.tests.map (·.status))

/-- Files a result under its mutant, or under a new one at the end. -/
def file (result : MutationResult) : List MutantOutcome → List MutantOutcome
  | [] => [ofResult result]
  | mutant :: rest =>
      if mutant.id = result.point.uniqueId then
        { mutant with tests := mutant.tests ++ [.ofResult result] } :: rest
      else
        mutant :: file result rest

end MutantOutcome

structure Summary where
  mutants : List MutantOutcome
deriving DecidableEq, Inhabited

namespace Summary

def ofResults (results : List MutationResult) : Summary :=
  { mutants := results.foldl (fun mutants result => MutantOutcome.file result mutants) [] }

def total (summary : Summary) : Nat := summary.mutants.length

def count (summary : Summary) (status : MutantStatus) : Nat :=
  summary.mutants.countP (·.status == status)

/-- The share of killed mutants among those that were decided, in percent. -/
def score (summary : Summary) : Float :=
  let killed := summary.count .killed
  let decided := killed + summary.count .survived
  if decided = 0 then 0.0 else killed.toFloat * 100.0 / decided.toFloat

/-- The mutants that no test noticed. -/
def survivors (summary : Summary) : List MutantOutcome :=
  summary.mutants.filter (·.status == .survived)

end Summary

end MutationTesting
