import MutationTesting.CommandLine.Directory
import MutationTesting.CommandLine.Options
import MutationTesting.Configuration.Encoding
import MutationTesting.Report.Encoding
import MutationTesting.Report.Printing
import MutationTesting.Sample.Program

/-!
The command: it reads its options and settings, runs the sample program with its mutants, prints
the summary and writes it to a file if that is asked for.
-/

namespace MutationTesting.CommandLine

/-- Why the command fails after it has understood its options. -/
inductive Failure where
  | configuration (error : Configuration.LoadError)
  | run (message : String)
  | writeSummary
deriving DecidableEq, Repr

/-- Where settings are looked for when no file is named. -/
def defaultConfigFile : String := "config.toml"

def Options.settingsPath (options : Options) : String := options.configFile.getD defaultConfigFile

/-- The settings that hold for the given options, by what is found where they are looked for.
Only a file that was not named may be missing.
-/
def Options.configuration (options : Options) (found : Found) (cores : Nat)
    : Except Configuration.LoadError Configuration := do
  let loaded ←
    if options.configFile.isNone && found = .nothing then
      .ok (.standard cores)
    else
      Configuration.load found.bytes? cores
  pure (options.applyTo loaded cores)

def runSample (configuration : Configuration) (cores : Nat) : Except Failure Summary :=
  let engine := Engine.ofConfiguration configuration cores Sample.runner
  match ((Sample.pipeline Sample.unitTests).run engine {}).1 with
  | .error (.failed error) => .error (.run error.message)
  | .error (.stopped _) => .error (.run "")
  | .ok report =>
      match report.results with
      | .error error => .error (.run error.message)
      | .ok results => .ok (.ofResults results)

/-- The summary of the run that the options ask for. -/
def summarize (options : Options) (found : Found) (cores : Nat) : Except Failure Summary :=
  match options.configuration found cores with
  | .error error => .error (.configuration error)
  | .ok configuration => runSample configuration cores

def fileBytes (summary : Summary) : List UInt8 := Utf8.encode summary.fileText

/-- What the command leaves behind: printed lines, files, and why it failed if it did. -/
structure Outcome where
  lines : List String := []
  directory : Directory
  failure : Option Failure := none

def Outcome.writeSummary (outcome : Outcome) (options : Options) (summary : Summary) : Outcome :=
  match options.json with
  | none => outcome
  | some path =>
      match outcome.directory.write? path (fileBytes summary) with
      | some directory => { outcome with directory }
      | none => { outcome with failure := some .writeSummary }

def run (options : Options) (directory : Directory) (cores : Nat) : Outcome :=
  match summarize options (directory.find options.settingsPath) cores with
  | .error failure => { directory, failure := some failure }
  | .ok summary =>
      Outcome.writeSummary { lines := summary.lines, directory } options summary

def Outcome.code (outcome : Outcome) : UInt32 := if outcome.failure.isSome then 1 else 0

end MutationTesting.CommandLine
