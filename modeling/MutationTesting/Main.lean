import MutationTesting.CommandLine.Messages

/-!
The command line program. It looks up what is to be read, prints what the command works out and
writes what is to be written.
-/

namespace MutationTesting.CommandLine

/-- A worker count of zero stands for this number of workers. -/
def cores : Nat := 1

/-- What is at a path. -/
def look (path : String) : IO Found := do
  try
    let bytes ← IO.FS.readBinFile path
    return .file bytes.toList
  catch
    | .noFileOrDirectory .. => return .nothing
    | _ => return .noFile

/-- Says why the command failed. -/
def fail (options : Options) (failure : Failure) : IO UInt32 := do
  IO.eprintln ("Error: " ++ failure.message options)
  return 1

/-- Writes the summary to the file that the options name, if any. -/
def writeSummary (options : Options) (summary : Summary) : IO UInt32 := do
  match options.json with
  | none => return 0
  | some path =>
      try
        IO.FS.writeBinFile path (ByteArray.mk (fileBytes summary).toArray)
        return 0
      catch _ => fail options .writeSummary

/-- Does what the options ask for. -/
def perform (options : Options) : IO UInt32 := do
  let found ← look options.settingsPath
  let start ← IO.monoNanosNow
  match summarize options found cores with
  | .error failure => fail options failure
  | .ok summary =>
      summary.lines.forM (IO.println ·)
      IO.println (finishedLine ((← IO.monoNanosNow) - start))
      writeSummary options summary

/-- Runs the command with its arguments. -/
def start (arguments : List String) : IO UInt32 := do
  match Options.ofArguments arguments with
  | .error .usage => do
      IO.eprintln usageLine
      return 2
  | .error .help => do
      helpLines.forM (IO.println ·)
      return 0
  | .error .version => do
      IO.println versionLine
      return 0
  | .ok options => perform options

end MutationTesting.CommandLine

def main (arguments : List String) : IO UInt32 := MutationTesting.CommandLine.start arguments
