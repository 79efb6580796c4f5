import Z80Monitor.Text.Hexadecimal
import Z80Monitor.Text.Pieces
import Z80Monitor.Text.Quoted
import Z80Monitor.Text.Similarity

/-!
# Usage of the command

The options of the command, and what is wrong with arguments that do not fit them. Most reports
begin with the usage line and a hint; the reports about the value of an option as such do not.
-/

namespace Z80Monitor.CommandLine

/-- An option of the command. -/
inductive CommandOption where
  /-- The file with the configuration. -/
  | config
  /-- The load address. -/
  | origin
  /-- The greatest number of steps. -/
  | maxSteps
  /-- Whether everything is logged. -/
  | verbose
  /-- Whether only the help is asked for. -/
  | help
  deriving DecidableEq, Repr

namespace CommandOption

/-- Every option. -/
def all : List CommandOption := [.config, .origin, .maxSteps, .verbose, .help]

/-- The long name. -/
def longName : CommandOption → String
  | .config => "--config"
  | .origin => "--origin"
  | .maxSteps => "--max-steps"
  | .verbose => "--verbose"
  | .help => "--help"

/-- The letter of the short name, if there is one. -/
def letter? : CommandOption → Option Char
  | .config => some 'c'
  | .origin => some 'o'
  | .maxSteps => some 'n'
  | .verbose => some 'v'
  | .help => none

/-- Whether a value belongs to the option. -/
def takesValue : CommandOption → Bool
  | .config | .origin | .maxSteps => true
  | .verbose | .help => false

/-- The option with a long name. -/
def ofLongName? (name : List Char) : Option CommandOption :=
  all.find? fun option => option.longName.toList == name

/-- The option with a letter. -/
def ofLetter? (letter : Char) : Option CommandOption :=
  all.find? fun option => option.letter? == some letter

/-- The long names that are similar to a text, in alphabetical order. -/
def namesLike (text : List Char) : List String :=
  ([CommandOption.config, .help, .maxSteps, .origin, .verbose].map longName).filter fun name =>
    Text.similar name (String.ofList text)

end CommandOption

/-- What a value on the command line is for. -/
inductive Parameter where
  /-- The source file. -/
  | sourceFile
  /-- The configuration file. -/
  | configFile
  /-- The greatest number of steps. -/
  | stepLimit
  deriving DecidableEq, Repr

/-- How reports name a parameter. -/
def Parameter.hint : Parameter → String
  | .sourceFile => "'SOURCE_FILE'"
  | .configFile => "'-c' / '--config'"
  | .stepLimit => "'-n' / '--max-steps'"

/-- What is wrong with the arguments of the command. -/
inductive UsageError where
  /-- No option has the name. -/
  | unknownOption (name : List Char) (similar : List String)
  /-- The option is the last argument and its value is missing. -/
  | valueMissing (name : List Char)
  /-- The option comes with a value and takes none. -/
  | valueUnexpected (name : List Char)
  /-- No source file is given. -/
  | sourceMissing
  /-- There are arguments behind the source file. -/
  | extraArguments (arguments : List (List Char))
  /-- The file does not exist. -/
  | fileMissing (parameter : Parameter) (path : List Char)
  /-- The file is a directory. -/
  | fileIsDirectory (parameter : Parameter) (path : List Char)
  /-- A path holds NUL, which no path can. -/
  | impossiblePath
  /-- The number of steps is no integer. -/
  | stepsNotInteger (text : List Char)
  /-- The number of steps is not positive. -/
  | stepsNotPositive (value : Int)
  /-- The load address is no integer. -/
  | badAddress (text : List Char)
  deriving DecidableEq, Repr

namespace UsageError

/-- The wording for a text that is no address. -/
def addressMessage (text : List Char) : List Char :=
  "Invalid address '".toList ++ text ++ ['\'']

/-- The beginning of a report on the value of a parameter. -/
def valueOf (parameter : Parameter) : List Char :=
  "Invalid value for ".toList ++ parameter.hint.toList ++ [':', ' ']

/-- What a report says of names that are similar to an unknown one. -/
def suggestion : List String → List Char
  | [] => []
  | [name] => " Did you mean ".toList ++ Text.quoted name.toList ++ ['?']
  | names =>
    " (Did you mean one of: ".toList ++
      Text.commaList (names.map fun name => Text.quoted name.toList) ++ ['?', ')']

/-- The wording of a report. -/
def message : UsageError → List Char
  | .unknownOption name similar =>
    "No such option ".toList ++ Text.quoted name ++ ['.'] ++ suggestion similar
  | .valueMissing name =>
    "Option ".toList ++ Text.quoted name ++ " requires an argument.".toList
  | .valueUnexpected name =>
    "Option ".toList ++ Text.quoted name ++ " does not take a value.".toList
  | .sourceMissing => "Missing argument ".toList ++ Parameter.sourceFile.hint.toList ++ ['.']
  | .extraArguments arguments =>
    (if arguments.length = 1 then "Got unexpected extra argument (".toList
      else "Got unexpected extra arguments (".toList) ++ [' '].intercalate arguments ++ [')']
  | .fileMissing parameter path =>
    valueOf parameter ++ "File ".toList ++ Text.quoted path ++ " does not exist.".toList
  | .fileIsDirectory parameter path =>
    valueOf parameter ++ "File ".toList ++ Text.quoted path ++ " is a directory.".toList
  | .impossiblePath => "embedded null byte".toList
  | .stepsNotInteger text =>
    valueOf .stepLimit ++ Text.quoted text ++ " is not a valid integer range.".toList
  | .stepsNotPositive value =>
    valueOf .stepLimit ++ Text.decimal value ++ " is not in the range x>=1.".toList
  | .badAddress text => "Invalid value: ".toList ++ addressMessage text

/-- Whether there is a report at all. -/
def isReported : UsageError → Bool
  | .impossiblePath => false
  | _ => true

/-- Whether the usage line and the hint stand in front of a report. -/
def showsUsage : UsageError → Bool
  | .valueMissing _ | .valueUnexpected _ => false
  | _ => true

end UsageError

/-- The line that says how the command is used. -/
def usageLine : String := "Usage: main [OPTIONS] SOURCE_FILE"

/-- The line that says where to find the help. -/
def hintLine : String := "Try 'main --help' for help."

/-- The help. -/
def helpLines : List String :=
  [usageLine,
    "",
    "  Assemble SOURCE_FILE, load it and print an execution trace.",
    "",
    "Options:",
    "  -c, --config FILE              YAML session configuration",
    "  -o, --origin TEXT              Load address (hex with 0x/$ prefix or decimal).",
    "                                 Overrides the config.",
    "  -n, --max-steps INTEGER RANGE  Maximum number of instructions to execute",
    "                                 [default: 1000; x>=1]",
    "  -v, --verbose                  Enable debug logging",
    "  --help                         Show this message and exit."]

end Z80Monitor.CommandLine
