import Z80Monitor.Debugger.Trace

/-!
# The log

What is noted while a program is assembled, loaded and traced. An entry has a level and the name
of the part of the program that it comes from.
-/

namespace Z80Monitor.CommandLine

/-- How much an entry of the log matters. -/
inductive LogLevel where
  /-- It helps to find mistakes. -/
  | debug
  /-- It is worth knowing. -/
  | info
  /-- Something is wrong. -/
  | warning
  deriving DecidableEq, Repr

/-- The name of a level. -/
def LogLevel.name : LogLevel → String
  | .debug => "DEBUG"
  | .info => "INFO"
  | .warning => "WARNING"

/-- A part of the program that writes to the log. -/
inductive LogSource where
  /-- The assembler. -/
  | assembler
  /-- The processor. -/
  | processor
  /-- The debugger. -/
  | debugger
  deriving DecidableEq, Repr

/-- The name of a part of the program. -/
def LogSource.name : LogSource → String
  | .assembler => "retro_z80_core.loader.assembler"
  | .processor => "retro_z80_core.core.cpu"
  | .debugger => "retro_z80_core.debugger.debugger"

/-- An entry of the log. -/
structure LogEntry where
  /-- How much it matters. -/
  level : LogLevel
  /-- Where it comes from. -/
  source : LogSource
  /-- What it says. -/
  message : List Char
  deriving DecidableEq, Repr

/-- The line of an entry. -/
def LogEntry.line (entry : LogEntry) : String :=
  entry.level.name ++ " " ++ entry.source.name ++ ": " ++ String.ofList entry.message

/-- Whether an entry is shown: warnings always are. -/
def LogEntry.isShown (verbose : Bool) (entry : LogEntry) : Bool :=
  verbose || entry.level == .warning

/-- The entry for a reset. -/
def resetEntry : LogEntry :=
  ⟨.debug, .processor, "CPU reset (memory preserved)".toList⟩

/-- The entries for a source line, counted from 0, whose bytes go to an address. -/
def sourceLineLog (address : UInt16) (line : Nat) (text : List Char) : List LogEntry :=
  let place := Text.decimal (line + 1)
  match LineOutcome.ofLine text with
  | .blank => []
  | .rejected reason =>
    [⟨.warning, .assembler,
      "Line ".toList ++ place ++ " skipped (".toList ++ reason.message.toList ++
        "): ".toList ++ Text.quoted (Text.trim text)⟩]
  | .emitted instruction =>
    [⟨.debug, .assembler,
      Text.hexWord address ++ [':', ' '] ++ Text.hexBytes instruction.encode ++
        "  <- line ".toList ++ place⟩]

/-- The entries for source lines from the one counted `line` on, whose bytes start at an
address. -/
def sourceLog (address : UInt16) (line : Nat) : List (List Char) → List LogEntry
  | [] => []
  | text :: rest =>
    let length := (LineOutcome.ofLine text).bytes.length
    sourceLineLog address line text ++ sourceLog (address + UInt16.ofNat length) (line + 1) rest

/-- The entries for assembling and loading a source text. -/
def loadLog (source : String) (assembly : Assembly) : List LogEntry :=
  let bytes := Text.decimal assembly.data.length
  let refused := Text.decimal assembly.diagnostics.length
  sourceLog assembly.origin 0 (sourceLines source) ++
    [⟨.debug, .processor,
        "Loaded ".toList ++ bytes ++ " bytes at ".toList ++
          Text.markedHex 6 assembly.origin.toNat⟩,
      ⟨.debug, .debugger,
        "Assembled ".toList ++ bytes ++ " bytes (".toList ++ refused ++ " diagnostics)".toList⟩]

/-- The entries for a step. -/
def stepLog (result : StepResult) : List LogEntry :=
  if result.unimplemented then
    [⟨.warning, .processor, (UnimplementedOpcode.message ⟨result⟩).toList⟩]
  else []

/-- The entries for the steps of a trace and for its end. -/
def traceLog (trace : Trace) : List LogEntry :=
  let steps := trace.snapshots.flatMap fun snapshot => stepLog snapshot.result
  let ending := match trace.ending, trace.snapshots.getLast? with
    | .failed failure, _ => stepLog failure.result
    | .stopped .halted, some last =>
      [⟨.info, .debugger,
        "CPU halted at PC: ".toList ++ Text.markedHex 6 last.result.pc ++ " after ".toList ++
          Text.decimal trace.session.cpu.state.cycles ++ " cycles".toList⟩]
    | _, _ => []
  steps ++ ending

end Z80Monitor.CommandLine
