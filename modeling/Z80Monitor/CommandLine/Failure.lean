import Z80Monitor.CommandLine.Usage
import Z80Monitor.Configuration.Document
import Z80Monitor.Debugger.Session
import Z80Monitor.Text.EscapeCode
import Z80Monitor.Text.Utf8

/-!
# Failures of the command

Why the command ends without a summary, what it reports, and its exit code: 2 where arguments or
input are refused, and 1 otherwise.
-/

namespace Z80Monitor.CommandLine

/-- Why the command ends without a summary. -/
inductive Failure where
  /-- The arguments do not fit. -/
  | usage (error : UsageError)
  /-- The configuration is refused. -/
  | configuration (error : ConfigurationError)
  /-- The configuration file is no YAML. -/
  | configurationNotYaml (error : Yaml.YamlError)
  /-- The configuration file is no UTF-8. -/
  | configurationNotUtf8 (error : Text.Utf8Error)
  /-- The history of the session would be too long. -/
  | history (error : HistoryTooLong)
  /-- The source file is no UTF-8. -/
  | sourceNotUtf8 (path : List Char) (error : Text.Utf8Error)
  /-- A step met an opcode that stands for no instruction. -/
  | unimplemented (error : UnimplementedOpcode)

namespace Failure

/-- The exit code. -/
def exitCode : Failure → Nat
  | .usage error => if error.isReported then 2 else 1
  | .configuration .integerTooLong => 1
  | .configuration _ | .sourceNotUtf8 _ _ => 2
  | .configurationNotYaml _ | .configurationNotUtf8 _ | .history _ | .unimplemented _ => 1

/-- The wording of what is reported; some failures are not. -/
def message? : Failure → Option (List Char)
  | .usage error => if error.isReported then some error.message else none
  | .configuration .integerTooLong => none
  | .configuration error => some error.message.toList
  | .sourceNotUtf8 path error =>
    some (path ++ " is not valid UTF-8 text (".toList ++ error.message.toList ++ [')'])
  | .unimplemented error => some error.message.toList
  | .configurationNotYaml _ | .configurationNotUtf8 _ | .history _ => none

/-- The lines in front of the report. -/
def frontLines : Failure → List String
  | .usage error => if error.showsUsage then [usageLine, hintLine, ""] else []
  | _ => []

/-- The lines of the report. -/
def lines (failure : Failure) : List String :=
  match failure.message? with
  | some message =>
    failure.frontLines ++ [String.ofList (Text.withoutCodes ("Error: ".toList ++ message))]
  | none => []

end Failure

end Z80Monitor.CommandLine
