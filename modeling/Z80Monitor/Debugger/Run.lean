import Z80Monitor.Debugger.Session

/-!
# Runs

A run makes steps until its limit is reached or something else ends it: the processor is halted,
a breakpoint holds, an opcode stands for no instruction and the policy is to stop, or the run is
asked to stop. A breakpoint on the program counter is passed over where the run starts.
-/

namespace Z80Monitor

/-- Why a run ended. -/
inductive StopReason where
  /-- The limit was reached. -/
  | stepLimit
  /-- The processor is halted. -/
  | halted
  /-- A breakpoint held. -/
  | breakpoint
  /-- An opcode stands for no instruction. -/
  | unimplemented
  /-- The run was asked to stop. -/
  | stopped
  deriving DecidableEq, Repr

/-- The name of a reason. -/
def StopReason.name : StopReason → String
  | .stepLimit => "STEP_LIMIT"
  | .halted => "HALTED"
  | .breakpoint => "BREAKPOINT"
  | .unimplemented => "UNIMPLEMENTED"
  | .stopped => "STOPPED"

/-- What a run did. -/
structure RunResult where
  /-- Why the run ended. -/
  reason : StopReason
  /-- The steps made, in order. -/
  snapshots : List Snapshot
  deriving DecidableEq

/-- The number of steps made. -/
def RunResult.steps (result : RunResult) : Nat := result.snapshots.length

/-- The accesses of a step as breakpoints look at them. -/
def Snapshot.touched (snapshot : Snapshot) : List (AccessKind × Int) :=
  snapshot.bus.map fun access => (access.kind, (access.address.toNat : Int))

namespace Session

/-- What ends a run in front of its next step, when `made` steps are made. A request to stop
that came during the step before is honoured here. -/
def endsBefore (session : Session) (made : Nat) (stopDuring : Option Nat) : Option StopReason :=
  if 0 < made && stopDuring == some made then some .stopped
  else if session.cpu.state.halted then some .halted
  else if 0 < made && session.breakpoints.holdAt session.cpu.pc.toNat then some .breakpoint
  else none

/-- What ends a run behind a step that started with the registers `before`. -/
def endsAfter (session : Session) (snapshot : Snapshot) (before : RegisterMap) :
    Option StopReason :=
  if snapshot.result.unimplemented && session.configuration.onUnimplemented == .stop then
    some .unimplemented
  else if session.cpu.state.halted then some .halted
  else if session.breakpoints.holdAfter snapshot.touched before
      session.cpu.state.registers.display then
    some .breakpoint
  else none

/-- Go on with a run that has made the steps `made` and may make `remaining` more. -/
def runFrom (stopDuring : Option Nat) : (remaining : Nat) → (made : Array Snapshot) → Session →
    Except UnimplementedOpcode RunResult × Session
  | 0, made, session => (.ok ⟨.stepLimit, made.toList⟩, session)
  | remaining + 1, made, session =>
    match session.endsBefore made.size stopDuring with
    | some reason => (.ok ⟨reason, made.toList⟩, session)
    | none =>
      match session.stepInstruction with
      | (.error failure, after) => (.error failure, after)
      | (.ok snapshot, after) =>
        let made := made.push snapshot
        match after.endsAfter snapshot session.cpu.state.registers.display with
        | some reason => (.ok ⟨reason, made.toList⟩, after)
        | none => runFrom stopDuring remaining made after

/-- Run for at most `limit` steps, or as many as the configuration says. A request to stop may
come during one of the steps, counted from 1. -/
def run (session : Session) (limit : Option Int) (stopDuring : Option Nat) :
    Except UnimplementedOpcode RunResult × Session :=
  let steps := limit.getD session.configuration.stepsPerTick
  session.runFrom stopDuring steps.toNat #[]

end Session

end Z80Monitor
