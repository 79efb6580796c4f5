import Z80Monitor.Assembly.Program
import Z80Monitor.Configuration.Basic
import Z80Monitor.Debugger.Breakpoint
import Z80Monitor.Processor.Step

/-!
# Debugging sessions

A session drives a processor: it loads programs, steps, remembers the latest steps, and knows
the source line of the instruction carried out last. Every step of a session leaves a snapshot,
which later changes of the processor do not touch.
-/

namespace Z80Monitor

/-- The state of the processor after a step of a session, with what the step did. -/
structure Snapshot where
  /-- The state after the step. -/
  state : State
  /-- What the step did. -/
  result : StepResult
  /-- The clock cycles spent so far. -/
  cycleCount : Int
  /-- The source line of the instruction. -/
  sourceLine : Option Nat
  /-- The accesses of the step, in order. -/
  bus : List Access
  deriving DecidableEq

/-- A step met an opcode that stands for no instruction where the policy is to fail. -/
structure UnimplementedOpcode where
  /-- What the step did. -/
  result : StepResult
  deriving DecidableEq, Repr

/-- The wording of the failure. -/
def UnimplementedOpcode.message (failure : UnimplementedOpcode) : String :=
  let place := Text.markedHex 6 failure.result.pc
  String.ofList <| match failure.result.operation with
    | some operation =>
      "Opcode 0x".toList ++ Text.hex 2 operation.opcode ++ " at ".toList ++ place ++
        " not implemented".toList
    | none => "Unimplemented opcode at ".toList ++ place

/-- The greatest number of steps that a session can be told to remember. -/
def greatestHistoryLimit : Nat := 0x7FFFFFFFFFFFFFFF

/-- The history limit is above the greatest one. -/
structure HistoryTooLong where
  /-- The limit asked for. -/
  limit : Nat
  deriving DecidableEq, Repr

/-- The wording of a history limit that is too great. -/
def HistoryTooLong.message (_ : HistoryTooLong) : String :=
  "Python int too large to convert to C ssize_t"

/-- A debugging session. -/
structure Session where
  /-- The processor. -/
  cpu : Cpu
  /-- How the session is set up. -/
  configuration : Configuration
  /-- The breakpoints that are set. -/
  breakpoints : Breakpoints := []
  /-- The snapshots remembered, the latest first. -/
  recent : List Snapshot := []
  /-- The latest snapshot. -/
  last : Option Snapshot := none
  /-- The program, when it was assembled from source text. -/
  assembly : Option Assembly := none
  /-- Where the latest instruction, or a newly loaded program, starts. -/
  previousPc : Option UInt16 := none
  deriving DecidableEq

namespace Session

/-- A session for a processor as it stands. -/
def attach (cpu : Cpu) (configuration : Configuration) : Except HistoryTooLong Session :=
  if configuration.historyLimit ≤ greatestHistoryLimit then .ok { cpu, configuration }
  else .error ⟨configuration.historyLimit⟩

/-- Return to the state at power-on with the configured registers. The memory, the breakpoints
and the program stay. -/
def reset (session : Session) : Session :=
  let fresh := session.cpu.reset
  let initial := session.configuration.initialState
  let cpu := { fresh with
    state := { fresh.state with registers := initial.apply fresh.state.registers } }
  { session with cpu, recent := [], last := none, previousPc := some cpu.pc }

/-- A session for a new processor with the configured registers. -/
def build (configuration : Configuration) : Except HistoryTooLong Session := do
  let session ← attach Cpu.powerOn configuration
  .ok session.reset

/-- Change the processor from outside. -/
def onCpu (session : Session) (change : Cpu → Cpu) : Session :=
  { session with cpu := change session.cpu }

/-- The source line of each address; none without a program from source text. -/
def lineMap (session : Session) : LineMap :=
  match session.assembly with
  | some assembly => assembly.lineMap
  | none => LineMap.empty

/-- The snapshots remembered, the latest last. -/
def history (session : Session) : List Snapshot := session.recent.reverse

/-- Assemble a source text and load it where the configuration says. -/
def loadSource (session : Session) (source : String) : Session :=
  let origin := session.configuration.origin
  let assembly := assemble source origin
  let cpu := session.cpu.loadProgram origin (assembly.data.map fun value => (value.toNat : Int))
  { session with cpu, assembly := some assembly, previousPc := some cpu.pc }

/-- Load bytes at an origin, or where the configuration says; the lines of the program before
are forgotten. -/
def loadProgram (session : Session) (data : List Int) (origin : Option Int) : Session :=
  let cpu := session.cpu.loadProgram (origin.getD session.configuration.origin) data
  { session with cpu, assembly := none, previousPc := some cpu.pc }

/-- Set a breakpoint. -/
def addBreakpoint (session : Session) (breakpoint : Breakpoint) : Session :=
  { session with breakpoints := session.breakpoints.add breakpoint }

/-- Take a breakpoint away. -/
def removeBreakpoint (session : Session) (breakpoint : Breakpoint) : Session :=
  { session with breakpoints := session.breakpoints.remove breakpoint }

/-- The source line of the latest instruction, or else of the program counter. -/
def currentLine (session : Session) : Option Nat :=
  let atPc := session.lineMap.lineAt session.cpu.pc.toNat
  match session.previousPc with
  | some previous => (session.lineMap.lineAt previous.toNat).or atPc
  | none => atPc

/-- Make one step and remember it. -/
def advance (session : Session) : Snapshot × Session :=
  let (result, cpu) := session.cpu.step
  let snapshot : Snapshot :=
    { state := cpu.state
      result
      cycleCount := cpu.state.cycles
      sourceLine := session.lineMap.lineAt result.pc
      bus := cpu.lastBus }
  (snapshot,
    { session with
      cpu
      previousPc := some session.cpu.pc
      last := some snapshot
      recent := (snapshot :: session.recent).take session.configuration.historyLimit })

/-- Whether the policy makes a failure of a step. -/
def fails (session : Session) (snapshot : Snapshot) : Bool :=
  snapshot.result.unimplemented && session.configuration.onUnimplemented == .fail

/-- Make one step, which fails where the policy says so; the step is made all the same. -/
def stepInstruction (session : Session) : Except UnimplementedOpcode Snapshot × Session :=
  let (snapshot, after) := session.advance
  (if session.fails snapshot then .error ⟨snapshot.result⟩ else .ok snapshot, after)

end Session

end Z80Monitor
