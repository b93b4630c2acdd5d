import MutationTesting.Configuration.Configuration
import MutationTesting.Document.Decoder
import MutationTesting.Document.TomlReader
import MutationTesting.Text.Utf8

/-!
Settings in documents, and reading them from a file. Whatever is not given keeps its default, and
names that mean nothing are errors.
-/

namespace MutationTesting

open Document

namespace SandboxKind

def decoder : Decoder SandboxKind := .variant (all.map name) ofName?

def toValue (kind : SandboxKind) : Value := .text kind.name

end SandboxKind

namespace WorkerCounts

/-- How worker counts are read; those that are not given are zero. -/
def fields : Decoder.Fields WorkerCounts where
  typeName := "ParallelizationSettings"
  names := ["workers", "test-execution-workers", "mutant-execution-workers"]
  isClosed := true
  start := {}
  read dialect name value counts := do
    let count ← Decoder.size dialect value
    match name with
    | "workers" => .ok { counts with workers := count }
    | "test-execution-workers" => .ok { counts with testExecution := count }
    | _ => .ok { counts with mutantExecution := count }

def decoder : Decoder WorkerCounts := .record fields

def toValue (counts : WorkerCounts) : Value :=
  .table
    [
      ("workers", .integer counts.workers),
      ("test-execution-workers", .integer counts.testExecution),
      ("mutant-execution-workers", .integer counts.mutantExecution)
    ]

end WorkerCounts

namespace RunSettings

/-- How run settings are read; those that are not given have their defaults. -/
def fields : Decoder.Fields RunSettings where
  typeName := "ExecutionSettings"
  names :=
    ["fail-fast", "dry-run", "sandbox", "timeout-multiplier", "min-timeout-ms",
      "test-timeout-ms", "show-progress"]
  isClosed := true
  start := {}
  read dialect name value settings :=
    match name with
    | "fail-fast" => return { settings with failFast := ← Decoder.bool dialect value }
    | "dry-run" => return { settings with dryRun := ← Decoder.bool dialect value }
    | "sandbox" => return { settings with sandbox := ← SandboxKind.decoder dialect value }
    | "timeout-multiplier" =>
        return { settings with timeoutMultiplier := .ofNat (← Decoder.word dialect value) }
    | "min-timeout-ms" =>
        return { settings with minTimeout := .ofNat (← Decoder.longWord dialect value) }
    | "test-timeout-ms" =>
        return { settings with testTimeout := .ofNat (← Decoder.longWord dialect value) }
    | _ => return { settings with showProgress := ← Decoder.bool dialect value }

def decoder : Decoder RunSettings := .record fields

def toValue (settings : RunSettings) : Value :=
  .table
    [
      ("fail-fast", .bool settings.failFast),
      ("dry-run", .bool settings.dryRun),
      ("sandbox", settings.sandbox.toValue),
      ("timeout-multiplier", .integer settings.timeoutMultiplier.toNat),
      ("min-timeout-ms", .integer settings.minTimeout.toNat),
      ("test-timeout-ms", .integer settings.testTimeout.toNat),
      ("show-progress", .bool settings.showProgress)
    ]

end RunSettings

namespace Configuration

/-- How settings are read. A section that is not given has the defaults of a machine with the
given number of cores.
-/
def fields (cores : Nat) : Decoder.Fields Configuration where
  typeName := "Configuration"
  names := ["parallelization", "execution"]
  isClosed := true
  start := standard cores
  read dialect name value configuration :=
    match name with
    | "parallelization" =>
        return { configuration with counts := ← WorkerCounts.decoder dialect value }
    | _ => return { configuration with run := ← RunSettings.decoder dialect value }

def decoder (cores : Nat) : Decoder Configuration := .record (fields cores)

def toValue (configuration : Configuration) : Value :=
  .table
    [
      ("parallelization", configuration.counts.toValue),
      ("execution", configuration.run.toValue)
    ]

/-- Why a file gives no settings. -/
inductive LoadError where
  /-- There is no such file, or it holds no text. -/
  | unreadable
  /-- The text is no document, or not one of settings. -/
  | malformed (error : Option DecodeError)
deriving DecidableEq, Repr

def ofText (text : String) (cores : Nat) : Except LoadError Configuration :=
  match Toml.read? text with
  | none => .error (.malformed none)
  | some entries =>
      match decoder cores .toml (.table entries) with
      | .error error => .error (.malformed (some error))
      | .ok configuration => .ok (configuration.normalize cores)

/-- The settings in the bytes of a file; none stands for a file that does not exist. -/
def load (file : Option (List UInt8)) (cores : Nat) : Except LoadError Configuration :=
  match file.bind Utf8.decode? with
  | none => .error .unreadable
  | some text => ofText text cores

end Configuration

end MutationTesting
