import Z80Monitor.Debugger.Session
import Z80Monitor.Text.Blank

/-!
# Trace lines

One line for each step: where the instruction stands, its bytes, its text, the registers A, F and
B and the clock cycles after it, and the source line, counted from 1. An exclamation mark stands
behind an opcode that stands for no instruction.
-/

namespace Z80Monitor

/-- A text with blanks behind it, at least `width` characters long. -/
def padded (width : Nat) (text : List Char) : List Char :=
  text ++ List.replicate (width - text.length) ' '

namespace Snapshot

/-- The columns of a trace line, with the blanks at its end. -/
def traceColumns (snapshot : Snapshot) : List Char :=
  let result := snapshot.result
  let registers := snapshot.state.registers
  let (bytes, text) := match result.operation with
    | some operation => (operation.bytesText, operation.text.toList)
    | none => ([], ['-'])
  let line := match snapshot.sourceLine with
    | some line => 'L' :: Text.decimal (line + 1)
    | none => []
  let marker := if result.unimplemented then [' ', '!'] else []
  Text.hex 4 result.pc ++ [' ', ' '] ++ padded 9 bytes ++ [' '] ++ padded 12 text ++
    " A=".toList ++ Text.hexByte registers.a ++ " F=".toList ++ Text.hexByte registers.f ++
    " B=".toList ++ Text.hexByte registers.b ++ "  cyc=".toList ++
    padded 6 (Text.decimal snapshot.cycleCount) ++ [' '] ++ line ++ marker

/-- The trace line of a step. -/
def traceLine (snapshot : Snapshot) : String :=
  String.ofList (Text.trimEndBy Text.isBlank snapshot.traceColumns)

end Snapshot

end Z80Monitor
