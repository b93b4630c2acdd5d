import MutationTesting.CommandLine.Command
import MutationTesting.Decimal.Binary
import MutationTesting.Text.Quoted

/-!
What the command says besides its summary: how it is used, why it failed and how long it took.
-/

namespace MutationTesting.CommandLine

def versionLine : String := "mutation-testing 0.1.0"

def usageLine : String := "Usage: mutation-testing [OPTIONS]"

def helpLines : List String :=
  [
    usageLine,
    "",
    "Options:",
    "  -c, --config-file <CONFIG_FILE>  Read the settings from this file",
    "      --dry-run                    Walk the pipeline without executing any mutant",
    "      --fail-fast                  Stop testing a mutant as soon as one test kills it",
    "  -w, --workers <WORKERS>          Worker count for every pool (0 = one per core)",
    "      --sandbox <SANDBOX>          fork or null",
    "      --json <JSON>                Write the run summary as JSON to this path",
    "  -h, --help                       Print help",
    "  -V, --version                    Print version"
  ]

/-- What is wrong with a document, after a colon, where there is a wording for it. -/
def detail (error : Option Document.DecodeError) : String :=
  match error.bind (·.message?) with
  | some message => ": " ++ message
  | none => ""

def Failure.message (options : Options) : Failure → String
  | .configuration .unreadable =>
      "Failed to read config file at " ++ Text.quote options.settingsPath
  | .configuration (.malformed error) =>
      "Failed to parse TOML from config file " ++ Text.quote options.settingsPath ++ detail error
  | .run message => message
  | .writeSummary => "Failed to write summary to " ++ Text.quote (options.json.getD "")

/-- A length of time in a unit of some nanoseconds, with two places. -/
def inUnit (nanos unit : Nat) (name : String) : String :=
  let hundredths := Decimal.roundHalfEven (nanos * 100) unit
  let places := toString (hundredths % 100)
  toString (hundredths / 100) ++ "." ++ (if places.length < 2 then "0" else "") ++ places ++ name

/-- A number of nanoseconds in the largest unit that it reaches. -/
def elapsedText (nanos : Nat) : String :=
  if nanos ≥ 1000000000 then inUnit nanos 1000000000 "s"
  else if nanos ≥ 1000000 then inUnit nanos 1000000 "ms"
  else if nanos ≥ 1000 then inUnit nanos 1000 "µs"
  else inUnit nanos 1 "ns"

def finishedLine (nanos : Nat) : String := "Finished in " ++ elapsedText nanos ++ "."

end MutationTesting.CommandLine
