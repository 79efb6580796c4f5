import Z80Monitor.Debugger.Trace
import Z80Monitor.Debugger.TraceLine
import Z80Monitor.Text.EscapeCode

/-!
# Reports on a trace

The lines that are printed about a program and its trace: what was loaded and what was refused,
one line for each step, why the trace stopped early, and the registers, flags and clock cycles at
its end.
-/

namespace Z80Monitor.CommandLine

/-- The warning about a refused source line. -/
def warningLine (diagnostic : Diagnostic) : String :=
  String.ofList <| Text.withoutCodes <|
    "warning: line ".toList ++ Text.decimal (diagnostic.line + 1) ++ [':', ' '] ++
      diagnostic.reason.message.toList ++ [':', ' '] ++ Text.trim diagnostic.text

/-- The line that says what is loaded. -/
def loadedLine (assembly : Assembly) : String :=
  String.ofList <|
    "; ".toList ++ Text.decimal assembly.data.length ++ " bytes at $".toList ++
      Text.hexWord assembly.origin

/-- The registers that are shown at the end. -/
def shownRegisters : List String := ["A", "F", "B", "C", "D", "E", "H", "L", "PC", "SP"]

/-- The number of digits of a register: four for a register of two letters. -/
def digitsOf (name : String) : Nat := if name.length = 2 then 4 else 2

/-- The line of the registers. -/
def registersLine (registers : Registers) : String :=
  let shown := registers.display.filter fun (name, _) => shownRegisters.contains name
  let entries := shown.map fun (name, value) =>
    name ++ "=" ++ String.ofList (Text.hex (digitsOf name) value)
  "; " ++ ", ".intercalate entries

/-- The names of the documented flags that are set, with hyphens for the others. -/
def flagsText (registers : Registers) : String :=
  let shown := registers.flags.filter fun (name, _) => name != "Y" && name != "X"
  String.join (shown.map fun (name, on) => if on then name else "-")

/-- The line of the flags, the clock cycles and the halted flag. -/
def stateLine (state : State) : String :=
  "; flags=" ++ flagsText state.registers ++ " cycles=" ++
    String.ofList (Text.decimal state.cycles) ++ " halted=" ++
    (if state.halted then "True" else "False")

/-- The line that says why a trace stopped, where it did. -/
def stopLines : TraceEnd → List String
  | .stopped reason => ["; stopped: " ++ reason.name]
  | .complete | .failed _ => []

/-- The lines that sum up a trace, where it did not fail. -/
def summaryLines (trace : Trace) : List String :=
  match trace.ending with
  | .failed _ => []
  | _ => [registersLine trace.session.cpu.state.registers, stateLine trace.session.cpu.state]

/-- The lines of a trace. -/
def traceLines (trace : Trace) : List String :=
  trace.snapshots.map (·.traceLine) ++ stopLines trace.ending ++ summaryLines trace

end Z80Monitor.CommandLine
