import Z80Monitor.Processor.Listing
import Z80Monitor.Proofs.Debugger.RunAnswer

/-!
# Requests to a session

All that a driver can ask of a session and of its processor, with the answers, and work with a
session as a list of requests. What every request keeps holds behind all work that starts with it;
and as far as the record of steps is concerned, a request other than to reset the session either
leaves it alone or makes single steps.
-/

namespace Z80Monitor

/-- What a driver can ask of a session. -/
inductive Request where
  /-- Write to the register of the processor with a name. -/
  | writeRegister (name : String) (value : Int)
  /-- Move the program counter of the processor. -/
  | setPc (address : Int)
  /-- Store a value in memory. -/
  | writeMemory (address value : Int)
  /-- Load bytes into the processor without telling the session. -/
  | loadImage (origin : Int) (data : List Int)
  /-- Reset the processor without telling the session. -/
  | resetCpu
  /-- Fill the memory with zeros. -/
  | clearMemory
  /-- Let the processor make a step without telling the session. -/
  | step
  /-- Assemble a source text and load it. -/
  | loadSource (source : String)
  /-- Load bytes at an origin, or where the configuration says. -/
  | loadProgram (data : List Int) (origin : Option Int)
  /-- Set a breakpoint. -/
  | addBreakpoint (breakpoint : Breakpoint)
  /-- Set the breakpoint at an address. -/
  | addPcBreakpoint (address : Int)
  /-- Take a breakpoint away. -/
  | removeBreakpoint (breakpoint : Breakpoint)
  /-- Make one step. -/
  | stepInstruction
  /-- Run, possibly with a request to stop during one of the steps. -/
  | run (limit : Option Int) (stopDuring : Option Nat)
  /-- Stop, while no run goes on. -/
  | stop
  /-- Reset the session. -/
  | reset
  /-- Show everything that can be looked at. -/
  | look
  /-- List the instructions of a part of memory. -/
  | list (start length : Int)

/-- Everything of a session that can be looked at. -/
structure Visible where
  /-- A copy of the state of the processor. -/
  state : State
  /-- The registers and pairs under their display names. -/
  display : RegisterMap
  /-- The flags with their names. -/
  flags : List (String × Bool)
  /-- The accesses of the last step of the processor. -/
  lastBus : List Access
  /-- How the session is set up. -/
  configuration : Configuration
  /-- The breakpoints that are set. -/
  breakpoints : Breakpoints
  /-- The program, when it was assembled from source text. -/
  assembly : Option Assembly
  /-- The addresses that have a source line, each with its line. -/
  lines : List (Nat × Nat)
  /-- The current source line. -/
  currentLine : Option Nat
  /-- The snapshots remembered. -/
  history : List Snapshot
  /-- The latest snapshot. -/
  last : Option Snapshot

/-- The answer to a request. -/
inductive Response where
  /-- The request is carried out. -/
  | done
  /-- The request names no register, and nothing is done. -/
  | refused (error : RegisterError)
  /-- What a step of the processor did. -/
  | stepped (result : StepResult)
  /-- What a step of the session leaves to be seen. -/
  | advanced (snapshot : Snapshot)
  /-- A step or a run failed. -/
  | failed (failure : UnimplementedOpcode)
  /-- What a run did. -/
  | ran (result : RunResult)
  /-- The program that a source text comes to. -/
  | assembled (assembly : Assembly)
  /-- The breakpoint that was set. -/
  | armed (breakpoint : Breakpoint)
  /-- What can be looked at. -/
  | shown (visible : Visible)
  /-- A listing. -/
  | listed (lines : List ListingLine)

/-- The answer to a request for a step. -/
def Response.ofStep : Except UnimplementedOpcode Snapshot → Response
  | .ok snapshot => .advanced snapshot
  | .error failure => .failed failure

/-- The answer to a request for a run. -/
def Response.ofRun : Except UnimplementedOpcode RunResult → Response
  | .ok result => .ran result
  | .error failure => .failed failure

section Work

variable {Whole Part : Type} (respond : Whole → Request → Response × Whole)

/-- What requests lead to, one after the other. -/
def performFrom (whole : Whole) : List Request → Whole
  | [] => whole
  | request :: rest => performFrom (respond whole request).2 rest

/-- The answers to requests that are made one after the other. -/
def responsesFrom (whole : Whole) : List Request → List Response
  | [] => []
  | request :: rest => (respond whole request).1 :: responsesFrom (respond whole request).2 rest

variable {respond}

/-- What every request keeps holds behind all requests. -/
theorem holds_performFrom {holds : Whole → Prop}
    (kept : ∀ whole request, holds whole → holds (respond whole request).2) {whole : Whole}
    (first : holds whole) (requests : List Request) :
    holds (performFrom respond whole requests) := by
  induction requests generalizing whole with
  | nil => exact first
  | cons request rest ih => exact ih (kept whole request first)

/-- Every answer is given where that holds what every request keeps. -/
theorem exists_of_mem_responsesFrom {holds : Whole → Prop}
    (kept : ∀ whole request, holds whole → holds (respond whole request).2) {whole : Whole}
    (first : holds whole) {requests : List Request} {response : Response}
    (given : response ∈ responsesFrom respond whole requests) :
    ∃ before request, holds before ∧ (respond before request).1 = response := by
  induction requests generalizing whole with
  | nil => cases given
  | cons request rest ih =>
    rcases List.mem_cons.mp given with same | later
    · exact ⟨whole, request, first, same.symm⟩
    · exact ih (kept whole request first) later

section Projection

variable {other : Part → Request → Response × Part} {part : Whole → Part}
  (same : ∀ whole request, (respond whole request).map id part = other (part whole) request)
include same

/-- Requests lead a part that is on its own to what it comes to on its own. -/
theorem part_performFrom (whole : Whole) (requests : List Request) :
    part (performFrom respond whole requests) = performFrom other (part whole) requests := by
  induction requests generalizing whole with
  | nil => rfl
  | cons request rest ih =>
    rw [performFrom, performFrom, ih, ← same whole request]
    rfl

/-- Requests are answered as by a part that is on its own. -/
theorem responsesFrom_part (whole : Whole) (requests : List Request) :
    responsesFrom respond whole requests = responsesFrom other (part whole) requests := by
  induction requests generalizing whole with
  | nil => rfl
  | cons request rest ih =>
    rw [responsesFrom, responsesFrom, ih, ← same whole request]
    rfl

end Projection

end Work

namespace Session

/-- Everything of a session that can be looked at. -/
def visible (session : Session) : Visible where
  state := session.cpu.state
  display := session.cpu.state.registers.display
  flags := session.cpu.state.registers.flags
  lastBus := session.cpu.lastBus
  configuration := session.configuration
  breakpoints := session.breakpoints
  assembly := session.assembly
  lines := session.lineMap.entries
  currentLine := session.currentLine
  history := session.history
  last := session.last

/-- The answer to a request, and the session that the request leaves. A request to stop that comes
while no run goes on is forgotten, since every run takes such requests back when it begins. -/
def respond (session : Session) : Request → Response × Session
  | .writeRegister name value =>
    match session.cpu.writeNamed name value with
    | .ok cpu => (.done, session.onCpu fun _ => cpu)
    | .error error => (.refused error, session)
  | .setPc address => (.done, session.onCpu (·.setPc address))
  | .writeMemory address value => (.done, session.onCpu (·.writeMemory address value))
  | .loadImage origin data => (.done, session.onCpu (·.loadProgram origin data))
  | .resetCpu => (.done, session.onCpu (·.reset))
  | .clearMemory => (.done, session.onCpu (·.clearMemory))
  | .step => (.stepped session.cpu.step.1, session.onCpu (·.step.2))
  | .loadSource source =>
    (.assembled (assemble source session.configuration.origin), session.loadSource source)
  | .loadProgram data origin => (.done, session.loadProgram data origin)
  | .addBreakpoint breakpoint => (.done, session.addBreakpoint breakpoint)
  | .addPcBreakpoint address =>
    (.armed (.atAddress address), session.addBreakpoint (.atAddress address))
  | .removeBreakpoint breakpoint => (.done, session.removeBreakpoint breakpoint)
  | .stepInstruction => session.stepInstruction.map .ofStep id
  | .run limit stopDuring => (session.run limit stopDuring).map .ofRun id
  | .stop => (.done, session)
  | .reset => (.done, session.reset)
  | .look => (.shown session.visible, session)
  | .list start length => (.listed (session.cpu.state.memory.listing start length), session)

/-- The session that requests lead to, one after the other. -/
def perform (session : Session) (requests : List Request) : Session :=
  performFrom respond session requests

/-- The answers to requests that are made one after the other. -/
def responses (session : Session) (requests : List Request) : List Response :=
  responsesFrom respond session requests

/-- The sessions that work begins with: one for a processor as it stands, and one that is built for
a new processor. -/
inductive Starts (configuration : Configuration) : Session → Prop where
  /-- The session is for a processor as it stands. -/
  | attached {cpu : Cpu} {session : Session} (made : attach cpu configuration = .ok session) :
      Starts configuration session
  /-- The session is for a new processor with the configured registers. -/
  | built {session : Session} (made : build configuration = .ok session) :
      Starts configuration session

/-- A session that is built is one for a new processor, and is reset. -/
theorem build_eq (configuration : Configuration) :
    build configuration =
      if configuration.historyLimit ≤ greatestHistoryLimit then
        .ok (reset { cpu := .powerOn, configuration })
      else .error ⟨configuration.historyLimit⟩ := by
  unfold build attach
  split
  · rfl
  · rfl

/-- A session for a processor as it stands is nothing but this processor and a configuration. -/
theorem eq_of_attach {cpu : Cpu} {configuration : Configuration} {session : Session}
    (made : attach cpu configuration = .ok session) : session = { cpu, configuration } := by
  unfold attach at made
  split at made
  · exact (Except.ok.inj made).symm
  · cases made

/-- A session that is built is the one for a new processor behind a reset. -/
theorem eq_of_build {configuration : Configuration} {session : Session}
    (made : build configuration = .ok session) :
    session = reset { cpu := .powerOn, configuration } := by
  rw [build_eq] at made
  split at made
  · exact (Except.ok.inj made).symm
  · cases made

/-- Two configurations that remember as many steps are refused alike, or are built to sessions that
differ as those for a new processor do. -/
theorem build_eq_map {configuration other : Configuration} {change : Session → Session}
    (limits : other.historyLimit = configuration.historyLimit)
    (fresh : reset { cpu := .powerOn, configuration := other } =
      change (reset { cpu := .powerOn, configuration })) :
    build other = (build configuration).map change := by
  rw [build_eq, build_eq, limits]
  split
  · exact congrArg Except.ok fresh
  · rfl

/-- The snapshots of the steps that a run makes. A run that fails gives none of them, and has made
the steps up to the first of which the policy makes a failure. -/
def runSnapshots (session : Session) (limit : Option Int) (stopDuring : Option Nat) :
    List Snapshot :=
  match (session.run limit stopDuring).1 with
  | .ok result => result.snapshots
  | .error _ =>
    let admitted := session.snapshots (limit.getD session.configuration.stepsPerTick).toNat
    admitted.take (admitted.findIdx session.fails + 1)

/-- The snapshots of the steps of a run are those of single steps that lead to the session behind
the run. -/
theorem exists_runSnapshots_eq (session : Session) (limit : Option Int)
    (stopDuring : Option Nat) :
    ∃ total, session.runSnapshots limit stopDuring = session.snapshots total ∧
      (session.run limit stopDuring).2 = session.after total := by
  unfold runSnapshots
  generalize ran : session.run limit stopDuring = answer
  cases ran ▸ session.run_answers limit stopDuring with
  | @ended total reason within passed full => exact ⟨total, rfl, rfl⟩
  | @failed total within passed fails =>
    have found := session.findIdx_snapshots_eq session.fails within fails passed
    refine ⟨total + 1, ?_, rfl⟩
    dsimp only
    rw [found, session.take_snapshots within]

/-- What a request other than to reset the session can do to the record of steps, given the
snapshots that it makes. -/
inductive Records (session : Session) : List Snapshot → Session → Prop where
  /-- The request makes no step of the session and leaves its record alone. -/
  | kept {after : Session} (configuration : after.configuration = session.configuration)
      (recent : after.recent = session.recent) (last : after.last = session.last) :
      Records session [] after
  /-- The request makes single steps. -/
  | stepped (made : Nat) : Records session (session.snapshots made) (session.after made)

/-- No request but a reset changes the configuration. -/
theorem Records.configuration_eq {session after : Session} {made : List Snapshot}
    (records : session.Records made after) : after.configuration = session.configuration := by
  cases records with
  | kept configuration recent last => exact configuration
  | stepped count => exact session.configuration_after count

/-- The snapshots that a request makes. -/
def snapshotsOf (session : Session) : Request → List Snapshot
  | .stepInstruction => [session.advance.1]
  | .run limit stopDuring => session.runSnapshots limit stopDuring
  | _ => []

/-- A request other than to reset the session leaves the record of steps alone or makes single
steps. -/
theorem records_respond (session : Session) {request : Request} (other : request ≠ .reset) :
    session.Records (session.snapshotsOf request) (session.respond request).2 := by
  cases request with
  | writeRegister name value =>
    unfold respond
    dsimp only
    split
    · exact .kept rfl rfl rfl
    · exact .kept rfl rfl rfl
  | stepInstruction => exact .stepped 1
  | run limit stopDuring =>
    obtain ⟨total, snapshots, left⟩ := session.exists_runSnapshots_eq limit stopDuring
    change session.Records (session.runSnapshots limit stopDuring)
      (session.run limit stopDuring).2
    rw [snapshots, left]
    exact .stepped total
  | reset => exact absurd rfl other
  | _ => exact .kept rfl rfl rfl

/-- A request keeps the configuration. -/
theorem configuration_respond (session : Session) (request : Request) :
    (session.respond request).2.configuration = session.configuration := by
  cases request with
  | reset => rfl
  | _ => exact (session.records_respond (by rintro ⟨⟩)).configuration_eq

namespace Starts

variable {configuration : Configuration} {session : Session}

/-- A session that work begins with has its configuration and nothing to remember. -/
theorem eq_nil (starts : Starts configuration session) :
    session.configuration = configuration ∧ session.recent = [] ∧ session.last = none := by
  cases starts with
  | attached made =>
    obtain rfl := eq_of_attach made
    exact ⟨rfl, rfl, rfl⟩
  | built made =>
    obtain rfl := eq_of_build made
    exact ⟨rfl, rfl, rfl⟩

/-- Work keeps the configuration that it begins with. -/
theorem configuration_perform (starts : Starts configuration session) (requests : List Request) :
    (session.perform requests).configuration = configuration := by
  have kept (before : Session) (request : Request) (same : before.configuration = configuration) :
      (before.respond request).2.configuration = configuration :=
    (before.configuration_respond request).trans same
  exact holds_performFrom kept starts.eq_nil.1 requests

end Starts

end Session

end Z80Monitor
