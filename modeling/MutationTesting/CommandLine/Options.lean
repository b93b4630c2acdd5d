import MutationTesting.Configuration.Configuration

/-!
Options of the command line. Long options may have their value after an equals sign or as the
next argument; the value of a short option may also follow it directly. Every option is given at
most once, and arguments that are no options are errors.
-/

namespace MutationTesting.CommandLine

/-- What the command line asks for. -/
structure Options where
  configFile : Option String := none
  dryRun : Bool := false
  failFast : Bool := false
  workers : Option Nat := none
  sandbox : Option SandboxKind := none
  json : Option String := none
deriving DecidableEq, Inhabited

/-- Why no run is started. -/
inductive Refusal where
  | usage
  | help
  | version
deriving DecidableEq, Repr

inductive OptionName where
  | configFile | dryRun | failFast | workers | sandbox | json | help | version
deriving DecidableEq, Repr

namespace OptionName

def ofLong? : String → Option OptionName
  | "config-file" => some .configFile
  | "dry-run" => some .dryRun
  | "fail-fast" => some .failFast
  | "workers" => some .workers
  | "sandbox" => some .sandbox
  | "json" => some .json
  | "help" => some .help
  | "version" => some .version
  | _ => none

def ofShort? : Char → Option OptionName
  | 'c' => some .configFile
  | 'w' => some .workers
  | 'h' => some .help
  | 'V' => some .version
  | _ => none

def takesValue : OptionName → Bool
  | .configFile | .workers | .sandbox | .json => true
  | .dryRun | .failFast | .help | .version => false

end OptionName

/-- A number of 64 bits in decimal digits, with or without a plus sign. -/
def readCount? (text : String) : Option Nat :=
  let digits :=
    match text.toList with
    | '+' :: digits => digits
    | digits => digits
  if digits.isEmpty || !digits.all Char.isDigit then
    none
  else
    let value := digits.foldl (fun value c => value * 10 + (c.toNat - '0'.toNat)) 0
    if value < UInt64.size then some value else none

/-- A path, which is never empty. -/
def readPath? (text : String) : Option String := if text.isEmpty then none else some text

/-- Sets something that has not been set before. -/
def setOnce (before value : Option α) : Except Refusal (Option α) :=
  match before, value with
  | none, some value => .ok (some value)
  | _, _ => .error .usage

namespace Options

def setValue (options : Options) (name : OptionName) (text : String) : Except Refusal Options :=
  match name with
  | .configFile =>
      return { options with configFile := ← setOnce options.configFile (readPath? text) }
  | .workers => return { options with workers := ← setOnce options.workers (readCount? text) }
  | .sandbox =>
      return { options with sandbox := ← setOnce options.sandbox (SandboxKind.ofName? text) }
  | .json => return { options with json := ← setOnce options.json (readPath? text) }
  | .dryRun | .failFast | .help | .version => .error .usage

def setFlag (options : Options) : OptionName → Except Refusal Options
  | .dryRun => if options.dryRun then .error .usage else .ok { options with dryRun := true }
  | .failFast =>
      if options.failFast then .error .usage else .ok { options with failFast := true }
  | .help => .error .help
  | .version => .error .version
  | .configFile | .workers | .sandbox | .json => .error .usage

/-- Sets an option with the value attached to it, if any. An option that still needs its value
is answered with the options so far.
-/
def setAttached (options : Options) (name : OptionName) (value : Option String)
    : Except Refusal (Options × Option OptionName) :=
  match value with
  | some text => return (← options.setValue name text, none)
  | none =>
      if name.takesValue then .ok (options, some name) else return (← options.setFlag name, none)

/-- A long option without its two dashes, with or without a value after an equals sign. -/
def readLong (options : Options) (text : String)
    : Except Refusal (Options × Option OptionName) :=
  let name := String.ofList (text.toList.takeWhile (· ≠ '='))
  let value :=
    match text.toList.dropWhile (· ≠ '=') with
    | [] => none
    | _ :: value => some (String.ofList value)
  match OptionName.ofLong? name with
  | none => .error .usage
  | some name => options.setAttached name value

/-- Short options without their dash. -/
def readShort (options : Options) : List Char → Except Refusal (Options × Option OptionName)
  | [] => .ok (options, none)
  | letter :: rest =>
      match OptionName.ofShort? letter with
      | none => .error .usage
      | some name =>
          if name.takesValue then
            let value :=
              match rest with
              | [] => none
              | '=' :: value => some (String.ofList value)
              | value => some (String.ofList value)
            options.setAttached name value
          else do
            let options ← options.setFlag name
            readShort options rest

/-- Tells whether an argument can be the value of the option before it. -/
def canBeValue (argument : String) : Bool :=
  argument = "-" || argument.toList.head? ≠ some '-'

/-- Reads arguments one after the other; `awaiting` is the option whose value comes next. -/
def readAll (options : Options) (awaiting : Option OptionName)
    : List String → Except Refusal Options
  | [] => if awaiting.isSome then .error .usage else .ok options
  | argument :: rest =>
      match awaiting with
      | some name =>
          if canBeValue argument then do
            readAll (← options.setValue name argument) none rest
          else
            .error .usage
      | none =>
          if argument = "--" then
            if rest.isEmpty then .ok options else .error .usage
          else
            match argument.toList with
            | '-' :: '-' :: name => do
                let (options, awaiting) ← options.readLong (String.ofList name)
                readAll options awaiting rest
            | '-' :: letter :: letters => do
                let (options, awaiting) ← options.readShort (letter :: letters)
                readAll options awaiting rest
            | _ => .error .usage

def ofArguments (arguments : List String) : Except Refusal Options := readAll {} none arguments

/-- Settings with the options in the place of what they replace. -/
def applyTo (options : Options) (configuration : Configuration) (cores : Nat)
    : Configuration :=
  {
    counts := options.workers.elim configuration.counts (WorkerCounts.uniform · cores)
    run :=
      {
        configuration.run with
        dryRun := configuration.run.dryRun || options.dryRun
        failFast := configuration.run.failFast || options.failFast
        sandbox := options.sandbox.getD configuration.run.sandbox
      }
  }

end Options

end MutationTesting.CommandLine
