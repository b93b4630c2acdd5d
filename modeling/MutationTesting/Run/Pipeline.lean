import MutationTesting.Report.Summary
import MutationTesting.Run.Discovery
import MutationTesting.Run.Engine

/-!
A whole run: the tests are run on the unmutated program, those that pass are looked at for what
they reach, and the mutants of what they reach are put to the test.
-/

namespace MutationTesting

/-- What a whole run is about. -/
structure Pipeline where
  /-- The program as it is loaded while nothing is recorded. -/
  objects : List ObjectFile
  trampolined : List String
  /-- Where the program is loaded for discovery. -/
  recordingRunner : Runner
  discovery : DiscoverySettings
  tests : List UnitTest
  points : List MutationPoint
deriving Inhabited

/-- Why a whole run did not get as far as its mutants. -/
inductive PipelineStop where
  | failed (error : TaskError)
  /-- A test did not come to its end during discovery. -/
  | stopped (reason : Stop)
deriving DecidableEq, Repr

/-- What a whole run found out. -/
structure PipelineReport where
  runs : List BaselineRun
  discoveries : List Discovery
  /-- The points with the tests that reach them. -/
  points : List MutationPoint
  results : Except TaskError (List MutationResult)

namespace PipelineReport

/-- Everything that tests reach, in the order of the tests. -/
def testees (report : PipelineReport) : List Testee := report.discoveries.flatMap (·.testees)

end PipelineReport

namespace Pipeline

def discoverySource (pipeline : Pipeline) : ProgramSource :=
  {
    runner := pipeline.recordingRunner
    objects := pipeline.objects
    trampolined := pipeline.trampolined
  }

/-- What the given tests reach, found out in a process of its own. -/
def discover (pipeline : Pipeline) (tests : List UnitTest)
    : Except PipelineStop (List Discovery) :=
  match pipeline.discoverySource.load with
  | .error error => .error (.failed error)
  | .ok program =>
      let process : ProcessState :=
        { recorder := .new pipeline.discovery.functions.length }
      match (pipeline.discovery.discoverAll program tests process).1 with
      | .error reason => .error (.stopped reason)
      | .ok discoveries => .ok discoveries

def run (pipeline : Pipeline) (engine : Engine σ)
    : StateM σ (Except PipelineStop PipelineReport) := do
  match ← engine.runBaselines pipeline.tests pipeline.objects pipeline.trampolined with
  | .error error => pure (.error (.failed error))
  | .ok runs =>
      match pipeline.discover (passingTests runs) with
      | .error stop => pure (.error stop)
      | .ok discoveries => do
          let testees := discoveries.flatMap (·.testees)
          let points := attachTests pipeline.points testees
          let results ← engine.runMutants points pipeline.objects pipeline.trampolined
          pure (.ok { runs, discoveries, points, results })

end Pipeline

end MutationTesting
