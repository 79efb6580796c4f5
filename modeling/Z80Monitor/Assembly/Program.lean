import Z80Monitor.Assembly.Statement
import Z80Monitor.Memory.AddressSpace

/-!
# Assembled programs

A source text is assembled in one pass over its lines. Each line adds its bytes behind those of
the lines in front of it and notes itself at their addresses, which wrap, so that where a program
goes round the address space the last line at an address counts. A line that is refused adds a
diagnostic and takes no address.
-/

namespace Z80Monitor

/-- What a line of source text amounts to. -/
inductive LineOutcome where
  /-- The line holds no statement. -/
  | blank
  /-- The line is refused. -/
  | rejected (reason : LineError)
  /-- The line denotes an instruction. -/
  | emitted (instruction : Instruction)
  deriving DecidableEq, Repr

namespace LineOutcome

/-- What a line amounts to. -/
def ofLine (line : List Char) : LineOutcome :=
  match Statement.ofLine? line with
  | none => .blank
  | some statement =>
    match statement.instruction with
    | .ok instruction => .emitted instruction
    | .error reason => .rejected reason

/-- The bytes that a line contributes. -/
def bytes : LineOutcome → List UInt8
  | .emitted instruction => instruction.encode
  | _ => []

end LineOutcome

/-- A line that was refused. Lines are counted from 0. -/
structure Diagnostic where
  /-- Which line. -/
  line : Nat
  /-- The line as it was written. -/
  text : List Char
  /-- Why it was refused. -/
  reason : LineError
  deriving DecidableEq, Repr

/-- The line that each address got its byte from. -/
abbrev LineMap := AddressSpace (Option Nat)

namespace LineMap

/-- A map without any line. -/
def empty : LineMap := AddressSpace.filled none

/-- The line of an address. -/
def lineAt (map : LineMap) (address : Int) : Option Nat := map.valueAt (word address)

/-- The addresses that have a line, in order, each with its line. -/
def entries (map : LineMap) : List (Nat × Nat) :=
  (AddressSpace.toList map).zipIdx.filterMap fun (line, address) =>
    line.map fun line => (address, line)

/-- How many addresses have a line. -/
def size (map : LineMap) : Nat := Halves.count Option.isSome map

end LineMap

/-- An assembled program. -/
structure Assembly where
  /-- Where the program starts. -/
  origin : UInt16
  /-- The bytes of the program. -/
  data : List UInt8
  /-- The line of each address. -/
  lineMap : LineMap
  /-- The refused lines, in order. -/
  diagnostics : List Diagnostic
  deriving DecidableEq

/-- The lines of a source text. -/
def sourceLines (source : String) : List (List Char) := Text.splitOn '\n' source.toList

namespace Assembly

/-- A program of which some lines are assembled. -/
structure Draft where
  /-- The bytes so far. -/
  data : Array UInt8 := #[]
  /-- The line of each address so far. -/
  lineMap : LineMap := LineMap.empty
  /-- The refused lines so far, in order. -/
  diagnostics : Array Diagnostic := #[]
  /-- Where the next byte goes. -/
  current : UInt16

namespace Draft

/-- Assemble one more line, which is counted as `line`. -/
def addLine (draft : Draft) (line : Nat) (text : List Char) : Draft :=
  match LineOutcome.ofLine text with
  | .blank => draft
  | .rejected reason => { draft with diagnostics := draft.diagnostics.push ⟨line, text, reason⟩ }
  | .emitted instruction =>
    let bytes := instruction.encode
    { draft with
      data := draft.data ++ bytes
      lineMap := draft.lineMap.place draft.current.toNat (bytes.map fun _ => some line)
      current := word (draft.current.toNat + bytes.length) }

/-- Assemble more lines, of which the first is counted as `line`. -/
def addLines (draft : Draft) (line : Nat) : List (List Char) → Draft
  | [] => draft
  | text :: rest => (draft.addLine line text).addLines (line + 1) rest

end Draft

end Assembly

/-- Assemble a source text for a place in the address space. -/
def assemble (source : String) (origin : Int) : Assembly :=
  let draft := Assembly.Draft.addLines { current := word origin } 0 (sourceLines source)
  { origin := word origin
    data := draft.data.toList
    lineMap := draft.lineMap
    diagnostics := draft.diagnostics.toList }

end Z80Monitor
