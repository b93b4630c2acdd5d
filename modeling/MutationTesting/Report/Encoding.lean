import MutationTesting.Document.JsonWriter
import MutationTesting.Execution.Encoding
import MutationTesting.Report.Summary

/-!
Summaries in documents.
-/

namespace MutationTesting

open Document

def TestOutcome.toValue (outcome : TestOutcome) : Value :=
  .table
    [
      ("test", .text outcome.test),
      ("distance", .integer outcome.distance),
      ("status", outcome.status.toValue),
      ("running-time-ms", .integer outcome.millis)
    ]

/-- A mutant as a table; the location is left out when there is none. -/
def MutantOutcome.toValue (mutant : MutantOutcome) : Value :=
  let location : List (String × Value) :=
    match mutant.location with
    | some location => [("location", .text location.text)]
    | none => []
  .table
    ([
        ("id", .text mutant.id),
        ("module", .text mutant.module),
        ("function", .text mutant.function),
        ("mutator", .text mutant.mutator.id),
        ("description", .text mutant.mutator.description)
      ]
      ++ location
      ++ [
        ("status", .text mutant.status.name),
        ("tests", .list (mutant.tests.map (·.toValue)))
      ])

namespace Summary

def toValue (summary : Summary) : Value :=
  .table
    [
      ("total", .integer summary.total),
      ("killed", .integer (summary.count .killed)),
      ("survived", .integer (summary.count .survived)),
      ("not-executed", .integer (summary.count .notExecuted)),
      ("score", .decimal summary.score),
      ("mutants", .list (summary.mutants.map (·.toValue)))
    ]

def fileText (summary : Summary) : String := Json.write 0 summary.toValue

end Summary

end MutationTesting
