import Z80Monitor.CommandLine.Arguments
import Z80Monitor.Text.Numeral
import Z80Monitor.Text.Pieces

/-!
# Settings of the command

What the arguments ask for, once every value fits its option and the files are there. The options
are looked at in the order in which they are given, then the source file, and the first that does
not fit is reported.
-/

namespace Z80Monitor.CommandLine

/-- What a path leads to. -/
inductive PathContents where
  /-- There is nothing. -/
  | missing
  /-- There is a directory. -/
  | directory
  /-- There is a file. -/
  | file (bytes : List UInt8)
  deriving DecidableEq, Repr

/-- What every path leads to. -/
abbrev Files := List Char → PathContents

/-- A file that is there. -/
structure InputFile where
  /-- The path to it. -/
  path : List Char
  /-- What it holds. -/
  bytes : List UInt8
  deriving DecidableEq, Repr

/-- The slashes at the front of a path: two stay two, and more count as one. -/
def rootOf (path : List Char) : List Char :=
  match (path.takeWhile (· == '/')).length with
  | 0 => []
  | 2 => ['/', '/']
  | _ => ['/']

/-- A path without the parts that lead nowhere. -/
def plainPath (path : List Char) : List Char :=
  let parts := (Text.splitOn '/' path).filter fun part => !part.isEmpty && part != ['.']
  rootOf path ++ ['/'].intercalate parts

/-- The number of steps where none is given. -/
def defaultStepLimit : Nat := 1000

/-- What the arguments ask for. -/
structure Settings where
  /-- The source file. -/
  source : InputFile
  /-- The file with the configuration. -/
  config : Option InputFile
  /-- The load address as it is written. -/
  origin : Option (List Char)
  /-- The greatest number of steps. -/
  stepLimit : Nat
  /-- Whether everything is logged. -/
  verbose : Bool
  deriving DecidableEq, Repr

/-- The file that a path leads to. -/
def openFile (files : Files) (parameter : Parameter) (path : List Char) :
    Except UsageError InputFile :=
  if path.contains (Char.ofNat 0) then .error .impossiblePath
  else
    match files path with
    | .missing => .error (.fileMissing parameter path)
    | .directory => .error (.fileIsDirectory parameter path)
    | .file bytes => .ok ⟨path, bytes⟩

/-- The number of steps that a text denotes. -/
def readStepLimit (text : List Char) : Except UsageError Nat :=
  match Text.readInteger .decimal text with
  | none => .error (.stepsNotInteger text)
  | some value => if value < 1 then .error (.stepsNotPositive value) else .ok value.toNat

namespace Arguments

/-- The file with the configuration. -/
def config (arguments : Arguments) (files : Files) : Except UsageError (Option InputFile) :=
  (arguments.value? .config).mapM (openFile files .configFile)

/-- The greatest number of steps. -/
def stepLimit (arguments : Arguments) : Except UsageError Nat :=
  match arguments.value? .maxSteps with
  | some text => readStepLimit text
  | none => .ok defaultStepLimit

/-- Make sure that the value of an option fits. -/
def check (arguments : Arguments) (files : Files) : CommandOption → Except UsageError Unit
  | .config => (arguments.config files).map fun _ => ()
  | .maxSteps => arguments.stepLimit.map fun _ => ()
  | .origin | .verbose | .help => .ok ()

/-- What the arguments ask for. -/
def settings (arguments : Arguments) (files : Files) : Except UsageError Settings := do
  arguments.options.forM (arguments.check files)
  match arguments.plain with
  | [] => .error .sourceMissing
  | path :: extra =>
    let source ← openFile files .sourceFile path
    if !extra.isEmpty then .error (.extraArguments extra)
    else
      .ok
        { source
          config := ← arguments.config files
          origin := arguments.value? .origin
          stepLimit := ← arguments.stepLimit
          verbose := arguments.has .verbose }

end Arguments

/-- What the command is called for. -/
inductive Invocation where
  /-- The help. -/
  | help
  /-- A trace. -/
  | trace (settings : Settings)
  deriving DecidableEq, Repr

/-- What the command is called for by some arguments. -/
def Invocation.ofArguments (arguments : List String) (files : Files) :
    Except UsageError Invocation := do
  let arguments ← Arguments.ofList arguments
  if arguments.has .help then .ok .help else (arguments.settings files).map .trace

end Z80Monitor.CommandLine
