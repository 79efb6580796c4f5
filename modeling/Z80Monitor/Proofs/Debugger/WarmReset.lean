import Z80Monitor.Proofs.Debugger.AccessRecord

/-!
# Warm resets

A reset puts a session back to what it was when it was built, except that the memory, the
breakpoints and the program stay, and nothing else that was done before shows any more. That goes
as well for the switch that tells whether a run goes on. A reset leaves it as it is, but every run
sets it before looking at it, so only a request to stop that comes during the run itself counts.
What is on record in the memory of the processor stays as well, and does not show either.
-/

namespace Z80Monitor

/-- A session with the switch that tells whether a run goes on. -/
structure Switched where
  /-- The session. -/
  session : Session
  /-- Whether a run goes on. -/
  running : Bool

namespace Switched

/-- Switch off. -/
def off (switched : Switched) : Switched := { switched with running := false }

/-- Reset the session. -/
def reset (switched : Switched) : Switched := { switched with session := switched.session.reset }

/-- Go on with a run that has made the steps `made` and may make `remaining` more. A request to
stop that comes during a step switches off, and the run looks at the switch in front of the next. -/
def runFrom (stopDuring : Option Nat) : (remaining : Nat) → (made : Array Snapshot) → Switched →
    Except UnimplementedOpcode RunResult × Switched
  | 0, made, switched => (.ok ⟨.stepLimit, made.toList⟩, switched.off)
  | remaining + 1, made, switched =>
    if switched.running then
      match switched.session.endsBefore made.size none with
      | some reason => (.ok ⟨reason, made.toList⟩, switched.off)
      | none =>
        match switched.session.stepInstruction with
        | (.error failure, after) => (.error failure, ⟨after, false⟩)
        | (.ok snapshot, after) =>
          let made := made.push snapshot
          match after.endsAfter snapshot switched.session.cpu.state.registers.display with
          | some reason => (.ok ⟨reason, made.toList⟩, ⟨after, false⟩)
          | none => runFrom stopDuring remaining made ⟨after, stopDuring != some made.size⟩
    else (.ok ⟨.stopped, made.toList⟩, switched)

/-- Switch on and run. -/
def run (switched : Switched) (limit : Option Int) (stopDuring : Option Nat) :
    Except UnimplementedOpcode RunResult × Switched :=
  let steps := limit.getD switched.session.configuration.stepsPerTick
  runFrom stopDuring steps.toNat #[] ⟨switched.session, true⟩

/-- The answer to a request, and what the request leaves. -/
def respond (switched : Switched) : Request → Response × Switched
  | .run limit stopDuring => (switched.run limit stopDuring).map .ofRun id
  | .stop => (.done, switched.off)
  | .reset => (.done, switched.reset)
  | request =>
    let (response, session) := switched.session.respond request
    (response, { switched with session })

/-- What requests lead to, one after the other. -/
def perform (switched : Switched) (requests : List Request) : Switched :=
  performFrom respond switched requests

/-- The answers to requests that are made one after the other. -/
def responses (switched : Switched) (requests : List Request) : List Response :=
  responsesFrom respond switched requests

/-- What work can come to. It begins while no run goes on. -/
inductive Reached (configuration : Configuration) : Switched → Prop where
  /-- Some requests were made. -/
  | behind {session : Session} (starts : Session.Starts configuration session)
      (requests : List Request) : Reached configuration (perform ⟨session, false⟩ requests)

end Switched

/-- A request to stop that came during the step before is looked at in front of all else. -/
theorem Session.endsBefore_eq (session : Session) (made : Nat) (stopDuring : Option Nat) :
    session.endsBefore made stopDuring =
      if 0 < made && stopDuring == some made then some .stopped
      else session.endsBefore made none := by
  have unasked : ((none : Option Nat) == some made) = false := rfl
  simp only [endsBefore, unasked, Bool.and_false, Bool.false_eq_true, if_false]

namespace Switched

/-- A run that looks at the switch is the run of its session, as long as the switch is off exactly
behind the step during which the request to stop came. -/
theorem runFrom_eq {switched : Switched} {stopDuring : Option Nat} {made : Array Snapshot}
    (tells : switched.running = !(0 < made.size && stopDuring == some made.size))
    (remaining : Nat) :
    (switched.runFrom stopDuring remaining made).map id Switched.session =
      switched.session.runFrom stopDuring remaining made := by
  induction remaining generalizing switched made with
  | zero => rfl
  | succ remaining ih =>
    have front := switched.session.endsBefore_eq made.size stopDuring
    cases running : switched.running with
    | false =>
      have asked : (0 < made.size && stopDuring == some made.size) = true := by
        rwa [running, Bool.false_eq, Bool.not_eq_false'] at tells
      rw [asked, if_pos rfl] at front
      rw [Session.runFrom_of_endsBefore front, runFrom, running]
      rfl
    | true =>
      have unasked : (0 < made.size && stopDuring == some made.size) = false := by
        rwa [running, Bool.true_eq, Bool.not_eq_true'] at tells
      rw [unasked, if_neg Bool.false_ne_true] at front
      rw [runFrom, running, if_pos rfl]
      cases ends : switched.session.endsBefore made.size none with
      | some reason =>
        rw [Session.runFrom_of_endsBefore (front.trans ends)]
        rfl
      | none =>
        have going := front.trans ends
        rcases step : switched.session.stepInstruction with ⟨failure | snapshot, after⟩
        · rw [Session.runFrom_of_error going step]
          rfl
        · rw [Session.runFrom_of_ok going step]
          dsimp only
          cases behind : after.endsAfter snapshot
              switched.session.cpu.state.registers.display with
          | some reason => rfl
          | none =>
            have size : (made.push snapshot).size = made.size + 1 := Array.size_push _
            apply ih
            rw [size]
            rfl

/-- A run is the run of its session, whatever the switch was before. -/
theorem run_eq (switched : Switched) (limit : Option Int) (stopDuring : Option Nat) :
    (switched.run limit stopDuring).map id Switched.session =
      switched.session.run limit stopDuring :=
  runFrom_eq rfl _

/-- A request is answered as by the session, whatever the switch is. -/
theorem respond_eq (switched : Switched) (request : Request) :
    (switched.respond request).map id Switched.session = switched.session.respond request := by
  cases request with
  | run limit stopDuring =>
    exact congrArg (Prod.map Response.ofRun id) (switched.run_eq limit stopDuring)
  | _ => rfl

/-- Requests lead to what they lead to for the session. -/
theorem session_perform (switched : Switched) (requests : List Request) :
    (switched.perform requests).session = switched.session.perform requests :=
  part_performFrom respond_eq switched requests

/-- Requests are answered as by the session, whatever the switch is. -/
theorem responses_eq (switched : Switched) (requests : List Request) :
    switched.responses requests = switched.session.responses requests :=
  responsesFrom_part respond_eq switched requests

end Switched

namespace Session

/-- What a reset leaves of a session, and what it makes as in a fresh one. -/
structure Renewed (before fresh after : Session) : Prop where
  /-- The memory stays. -/
  memory : after.cpu.state.memory = before.cpu.state.memory
  /-- The breakpoints stay. -/
  breakpoints : after.breakpoints = before.breakpoints
  /-- The program stays. -/
  assembly : after.assembly = before.assembly
  /-- The registers are those of the fresh session. -/
  registers : after.cpu.state.registers = fresh.cpu.state.registers
  /-- The processor is halted where that of the fresh session is. -/
  halted : after.cpu.state.halted = fresh.cpu.state.halted
  /-- As many cycles are spent as in the fresh session. -/
  cycles : after.cpu.state.cycles = fresh.cpu.state.cycles
  /-- The history is that of the fresh session. -/
  history : after.history = fresh.history
  /-- The latest snapshot is that of the fresh session. -/
  last : after.last = fresh.last
  /-- The latest accesses are those of the fresh session. -/
  lastBus : after.cpu.lastBus = fresh.cpu.lastBus

variable {configuration : Configuration} {session left right fresh : Session}

/-- A session is built wherever work can begin. -/
theorem Starts.exists_build (starts : Starts configuration session) :
    ∃ fresh, build configuration = .ok fresh := by
  cases starts with
  | @attached cpu _ made =>
    unfold attach at made
    split at made
    · rename_i within
      unfold build attach
      rw [if_pos within]
      exact ⟨_, rfl⟩
    · cases made
  | built made => exact ⟨session, made⟩

/-- A reset renews a session. -/
theorem renewed_reset (session : Session) (built : build session.configuration = .ok fresh) :
    session.Renewed fresh session.reset := by
  obtain rfl := eq_of_build built
  exact ⟨rfl, rfl, rfl, rfl, rfl, rfl, rfl, rfl, rfl⟩

/-- A reset makes sessions the same, but for what is on record, that have the same configuration,
memory, breakpoints and program. -/
theorem unrecorded_reset (configuration : left.configuration = right.configuration)
    (memory : left.cpu.state.memory = right.cpu.state.memory)
    (breakpoints : left.breakpoints = right.breakpoints)
    (assembly : left.assembly = right.assembly) :
    left.reset.unrecorded = right.reset.unrecorded := by
  simp only [unrecorded, onCpu, reset, Cpu.reset, Cpu.pc, configuration, memory, breakpoints,
    assembly]

end Session

namespace Switched

variable {configuration : Configuration} {left right : Switched}

/-- Work keeps the configuration that it begins with. -/
theorem Reached.configuration_eq (reached : left.Reached configuration) :
    left.session.configuration = configuration := by
  cases reached with
  | behind starts requests =>
    rw [session_perform]
    exact starts.configuration_perform requests

/-- A session can be built where work is done. -/
theorem Reached.exists_build (reached : left.Reached configuration) :
    ∃ fresh, Session.build configuration = .ok fresh := by
  cases reached with
  | behind starts requests => exact starts.exists_build

/-- A reset makes all that was done before forgotten. Two sessions with the same configuration,
memory, breakpoints and program answer the same to all that is asked of them behind a reset,
whatever was done to them in front of it. The reset leaves the memory, the breakpoints and the
program, and makes all else as it is in a session that was just built. -/
theorem responses_reset (reached : left.Reached configuration)
    (other : right.Reached configuration)
    (memory : left.session.cpu.state.memory = right.session.cpu.state.memory)
    (breakpoints : left.session.breakpoints = right.session.breakpoints)
    (assembly : left.session.assembly = right.session.assembly) :
    (∀ requests, left.reset.responses requests = right.reset.responses requests) ∧
      ∃ fresh, Session.build configuration = .ok fresh ∧
        left.session.Renewed fresh left.reset.session := by
  have configurations : left.session.configuration = right.session.configuration :=
    reached.configuration_eq.trans other.configuration_eq.symm
  have sessions : left.reset.session.unrecorded = right.reset.session.unrecorded :=
    Session.unrecorded_reset configurations memory breakpoints assembly
  obtain ⟨fresh, built⟩ := reached.exists_build
  refine ⟨?_, fresh, built, ?_⟩
  · intro requests
    rw [responses_eq, responses_eq, Session.responses_unrecorded, sessions,
      ← Session.responses_unrecorded]
  · rw [← reached.configuration_eq] at built
    exact Session.renewed_reset left.session built

/-- A run to a halt on the one side, and a request to stop and a run that fails at an unknown opcode
on the other, are both forgotten. -/
theorem responses_reset_halted_and_failed :
    let configuration : Configuration :=
      { onUnimplemented := .fail, initialState := { pc := 1, registers := [(.byte .a, .number 7)] } }
    let program : List Int := [0xED, 0x3C, 0x76]
    let halting : List Request :=
      [.loadProgram program none, .setPc 1, .run none none, .addPcBreakpoint 2]
    let failing : List Request :=
      [.addPcBreakpoint 2, .writeRegister "h" 300, .loadProgram program none, .stop,
        .run (some 9) none]
    ∃ session, Session.build configuration = .ok session ∧
      let left := perform ⟨session, false⟩ halting
      let right := perform ⟨session, false⟩ failing
      left.session.cpu.state.halted = true ∧ right.session.cpu.state.halted = false ∧
        ∀ requests, left.reset.responses requests = right.reset.responses requests := by
  intro configuration program halting failing
  refine ⟨_, rfl, ?_⟩
  generalize built : Session.reset _ = session
  intro left right
  have starts : Session.Starts configuration session := .built (congrArg Except.ok built)
  have memory : left.session.cpu.state.memory = right.session.cpu.state.memory := by
    subst built
    decide +kernel
  have breakpoints : left.session.breakpoints = right.session.breakpoints := by
    subst built
    decide +kernel
  have assembly : left.session.assembly = right.session.assembly := by
    subst built
    decide +kernel
  obtain ⟨same, _⟩ := responses_reset (.behind starts halting) (.behind starts failing) memory
    breakpoints assembly
  refine ⟨?_, ?_, same⟩
  · subst built
    decide +kernel
  · subst built
    decide +kernel

end Switched

end Z80Monitor
