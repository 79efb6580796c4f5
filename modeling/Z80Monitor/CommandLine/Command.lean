import Z80Monitor.CommandLine.Failure
import Z80Monitor.CommandLine.Log
import Z80Monitor.CommandLine.Report
import Z80Monitor.CommandLine.Settings
import Z80Monitor.Text.LineEnd

/-!
# The command

The command assembles a source file, traces the program and prints one line for each step, then
the registers. What it does depends on its arguments and on the files they name, and on nothing
else. What the arguments ask for, and what the YAML text of a configuration says, is left to two
readers, and the command is carried out in the same way for any others.
-/

namespace Z80Monitor.CommandLine

/-- What the command did. -/
structure Outcome where
  /-- The lines of the standard output. -/
  output : List String := []
  /-- The lines of the standard error output. -/
  messages : List String := []
  /-- Why the command ended without a summary, where it did. -/
  failure : Option Failure := none

namespace Outcome

/-- The exit code. -/
def exitCode (outcome : Outcome) : Nat :=
  match outcome.failure with
  | some failure => failure.exitCode
  | none => 0

/-- The outcome of a failure behind some messages. -/
def ofFailure (messages : List String) (failure : Failure) : Outcome :=
  { messages := messages ++ failure.lines, failure := some failure }

/-- Lines with their ends, none of which is written with a carriage return. -/
def textOf (lines : List String) : String :=
  String.ofList (Text.withoutReturns (String.join (lines.map (· ++ "\n"))).toList)

end Outcome

/-- The text of a file. -/
def InputFile.text (file : InputFile) : Except Text.Utf8Error String :=
  (Text.decodeUtf8 file.bytes).map fun text => String.ofList (Text.withLineFeeds text)

/-- The readers that the command relies on. -/
structure Readers where
  /-- What the command is called for by some arguments. -/
  invocation : List String → Files → Except UsageError Invocation
  /-- What a YAML text says. -/
  document : String → Except Yaml.YamlError Value

/-- The readers that the program is made with. -/
def Readers.standard : Readers where
  invocation := Invocation.ofArguments
  document := Yaml.load

namespace Settings

/-- The configuration with the load address that is given by itself, if there is one. -/
def withOrigin (configuration : Configuration) (origin : Option (List Char)) :
    Except Failure Configuration :=
  match origin with
  | none => .ok configuration
  | some text =>
    match Text.readAddress text with
    | some address => .ok { configuration with origin := (word address).toNat }
    | none => .error (.usage (.badAddress text))

/-- The lines of the log that are shown. -/
def logLines (settings : Settings) (entries : List LogEntry) : List String :=
  (entries.filter (·.isShown settings.verbose)).map (·.line)

/-- Trace the program of a source text in a session that is new. -/
def traceSource (settings : Settings) (session : Session) (source : String) : Outcome :=
  let assembly := assemble source session.configuration.origin
  let trace := (session.loadSource source).trace settings.stepLimit
  let messages :=
    settings.logLines (resetEntry :: loadLog source assembly) ++
      assembly.diagnostics.map warningLine ++ settings.logLines (traceLog trace)
  let output := loadedLine assembly :: traceLines trace
  match trace.ending with
  | .failed error => { Outcome.ofFailure messages (.unimplemented error) with output }
  | _ => { output, messages }

end Settings

namespace Readers

variable (readers : Readers)

/-- The configuration in a file. -/
def fileConfiguration (file : InputFile) : Except Failure Configuration :=
  match file.text with
  | .error error => .error (.configurationNotUtf8 error)
  | .ok text =>
    match Configuration.ofTextBy readers.document text with
    | .ok configuration => .ok configuration
    | .error (.notYaml error) => .error (.configurationNotYaml error)
    | .error (.notConfiguration error) => .error (.configuration error)

/-- The configuration that settings ask for. -/
def configuration (settings : Settings) : Except Failure Configuration := do
  let found ← match settings.config with
    | some file => readers.fileConfiguration file
    | none => .ok {}
  Settings.withOrigin found settings.origin

/-- The session that settings ask for, before a program is loaded. -/
def session (settings : Settings) : Except Failure Session := do
  let configuration ← readers.configuration settings
  (Session.build configuration).mapError .history

/-- Do what settings ask for. -/
def outcome (settings : Settings) : Outcome :=
  match readers.session settings with
  | .error failure => .ofFailure [] failure
  | .ok session =>
    match settings.source.text with
    | .ok source => settings.traceSource session source
    | .error error =>
      .ofFailure (settings.logLines [resetEntry])
        (.sourceNotUtf8 (plainPath settings.source.path) error)

/-- Carry out the command with some arguments. -/
def run (arguments : List String) (files : Files) : Outcome :=
  match readers.invocation arguments files with
  | .error error => .ofFailure [] (.usage error)
  | .ok .help => { output := helpLines }
  | .ok (.trace settings) => readers.outcome settings

end Readers

/-- The paths that the command looks at, given some arguments. -/
def pathsOf (arguments : List String) : List (List Char) :=
  match Arguments.ofList arguments with
  | .ok arguments => (arguments.value? .config).toList ++ arguments.plain.take 1
  | .error _ => []

/-- Carry out the command with some arguments, by the standard readers. -/
def run (arguments : List String) (files : Files) : Outcome :=
  Readers.standard.run arguments files

end Z80Monitor.CommandLine
