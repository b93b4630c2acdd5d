import MutationTesting.Decimal.Binary
import MutationTesting.Report.Summary

/-!
Summaries as text for people: a line for every mutant and below it one for every test, then the
totals and the survivors.
-/

namespace MutationTesting

/-- A text with blanks after it up to a width in characters. -/
def padRight (text : String) (width : Nat) : String :=
  text ++ String.ofList (List.replicate (width - text.length) ' ')

/-- A text with blanks in front of it up to a width in characters. -/
def padLeft (text : String) (width : Nat) : String :=
  String.ofList (List.replicate (width - text.length) ' ') ++ text

def MutantOutcome.line (mutant : MutantOutcome) : String :=
  padRight mutant.status.label 12 ++ " " ++ padRight mutant.id 44 ++ " "
    ++ (mutant.location.map (·.text)).getD "-" ++ "  " ++ mutant.mutator.description

def TestOutcome.line (outcome : TestOutcome) : String :=
  "             " ++ padRight outcome.test 12 ++ " " ++ padLeft (toString outcome.millis) 6
    ++ " ms  distance " ++ toString outcome.distance ++ "  " ++ outcome.status.label

namespace Summary

def totalsLine (summary : Summary) : String :=
  "Mutants: " ++ toString summary.total
    ++ ", Killed: " ++ toString (summary.count .killed)
    ++ ", Survived: " ++ toString (summary.count .survived)
    ++ ", Not executed: " ++ toString (summary.count .notExecuted)
    ++ ", Score: " ++ Decimal.tenths summary.score ++ "%"

def survivorLine (mutant : MutantOutcome) : String :=
  "Survived: " ++ mutant.id ++ " ("
    ++ (mutant.location.map (·.text)).getD "unknown location" ++ ")"

/-- All lines of a printed summary. -/
def lines (summary : Summary) : List String :=
  [""] ++ summary.mutants.flatMap (fun mutant => mutant.line :: mutant.tests.map (·.line))
    ++ ["", summary.totalsLine] ++ summary.survivors.map survivorLine

def text (summary : Summary) : String := String.join (summary.lines.map (· ++ "\n"))

end Summary

end MutationTesting
