import Z80Monitor.Proofs.Debugger.History
import Z80Monitor.Proofs.Processor.Footprint
import Z80Monitor.Proofs.Processor.Width

/-!
# Widths in sessions

Whatever numbers a session is set up with or given, its state and all that it answers keep to the
widths: registers, pairs and memory in every state that is shown, the program counters of steps,
and the addresses of accesses, of listings and of source lines. Among the answers are snapshots of
steps made long before, so what every request has to keep is that the remembered ones do so too.
-/

namespace Z80Monitor

/-- Accesses at addresses of sixteen bits. -/
def AccessesBounded (accesses : List Access) : Prop :=
  ∀ access ∈ accesses, Fits 16 access.address.toNat

/-- Source lines of addresses of sixteen bits. -/
def LinesBounded (lines : List (Nat × Nat)) : Prop := ∀ entry ∈ lines, Fits 16 entry.1

/-- A snapshot that keeps to the widths. -/
structure Snapshot.Bounded (snapshot : Snapshot) : Prop where
  /-- The state behind the step does. -/
  state : snapshot.state.Bounded
  /-- The step started at an address. -/
  pc : Fits 16 snapshot.result.pc
  /-- Its accesses are at addresses. -/
  bus : AccessesBounded snapshot.bus

/-- Everything of a session that can be looked at keeps to the widths. -/
structure Visible.Bounded (visible : Visible) : Prop where
  /-- The state does. -/
  state : visible.state.Bounded
  /-- The display is that of the state. -/
  display : visible.display = visible.state.registers.display
  /-- The latest accesses are at addresses. -/
  lastBus : AccessesBounded visible.lastBus
  /-- The source lines are those of addresses. -/
  lines : LinesBounded visible.lines
  /-- The snapshots remembered keep to the widths. -/
  history : ∀ snapshot ∈ visible.history, snapshot.Bounded
  /-- The latest snapshot does. -/
  last : ∀ snapshot ∈ visible.last, snapshot.Bounded

/-- An answer that keeps to the widths. -/
def Response.Bounded : Response → Prop
  | .stepped result => Fits 16 result.pc
  | .advanced snapshot => snapshot.Bounded
  | .failed failure => Fits 16 failure.result.pc
  | .ran result => ∀ snapshot ∈ result.snapshots, snapshot.Bounded
  | .assembled assembly => LinesBounded assembly.lineMap.entries
  | .shown visible => visible.Bounded
  | .listed lines => ∀ line ∈ lines, Fits 16 line.address.toNat
  | .done | .refused _ | .armed _ => True

/-- Accesses are at addresses of sixteen bits. -/
theorem accessesBounded (accesses : List Access) : AccessesBounded accesses :=
  fun access _ => fits_word access.address

/-- The entries of a line map are for addresses of sixteen bits. -/
theorem LineMap.linesBounded_entries (map : LineMap) : LinesBounded map.entries := by
  rintro ⟨address, line⟩ entered
  obtain ⟨inside, _⟩ := (map.mem_entries_iff address line).mp entered
  exact ⟨Int.natCast_nonneg _, Int.ofNat_lt.mpr inside⟩

/-- A step of the processor starts at an address of sixteen bits. -/
theorem Cpu.fits_pc_step (cpu : Cpu) : Fits 16 cpu.step.1.pc := by
  rw [cpu.pc_step]
  exact fits_word cpu.pc

namespace Session

variable {configuration : Configuration} {session later : Session} {made : List Snapshot}

/-- A step leaves a snapshot that keeps to the widths. -/
theorem bounded_advance (session : Session) : session.advance.1.Bounded :=
  ⟨State.bounded _, session.cpu.fits_pc_step, accessesBounded _⟩

/-- Steps leave snapshots that keep to the widths. -/
theorem bounded_snapshots (session : Session) (count : Nat) :
    ∀ snapshot ∈ session.snapshots count, snapshot.Bounded := by
  intro snapshot listed
  obtain ⟨step, _, rfl⟩ := session.mem_snapshots.mp listed
  exact (session.after step).bounded_advance

/-- What a request records keeps to the widths. -/
theorem Records.bounded (recorded : session.Records made later) :
    ∀ snapshot ∈ made, snapshot.Bounded := by
  cases recorded with
  | kept configuration recent last => exact fun _ listed => absurd listed List.not_mem_nil
  | stepped count => exact session.bounded_snapshots count

/-- A session remembers only snapshots that keep to the widths. -/
def RecordBounded (session : Session) : Prop :=
  ∃ made, session.Remembers made ∧ ∀ snapshot ∈ made, snapshot.Bounded

/-- A request keeps what is remembered within the widths. -/
theorem RecordBounded.respond (remembered : session.RecordBounded) (request : Request) :
    (session.respond request).2.RecordBounded := by
  obtain ⟨made, remembers, bounded⟩ := remembered
  refine ⟨session.recordBehind made request, remembers.respond request, ?_⟩
  cases request with
  | reset => exact fun _ listed => absurd listed List.not_mem_nil
  | _ =>
    intro snapshot listed
    rcases List.mem_append.mp listed with before | behind
    · exact bounded snapshot before
    · exact (session.records_respond (by rintro ⟨⟩)).bounded snapshot behind

/-- What can be looked at keeps to the widths where what is remembered does. -/
theorem RecordBounded.visible (remembered : session.RecordBounded) : session.visible.Bounded := by
  obtain ⟨made, remembers, bounded⟩ := remembered
  constructor
  case state => exact State.bounded _
  case display => rfl
  case lastBus => exact accessesBounded _
  case lines => exact session.lineMap.linesBounded_entries
  case history =>
    intro snapshot listed
    exact bounded snapshot (remembers.mem_of_mem_recent (List.mem_reverse.mp listed))
  case last =>
    intro snapshot latest
    exact bounded snapshot (remembers.mem_of_mem_last latest)

/-- The answer to a request for a step keeps to the widths. -/
theorem bounded_ofStep (session : Session) :
    (Response.ofStep session.stepInstruction.1).Bounded := by
  cases failing : session.fails session.advance.1 with
  | false =>
    rw [stepInstruction_of_fails failing]
    exact session.bounded_advance
  | true =>
    rw [stepInstruction_of_failing failing]
    exact session.cpu.fits_pc_step

/-- The answer to a request for a run keeps to the widths. -/
theorem bounded_ofRun (session : Session) (limit : Option Int) (stopDuring : Option Nat) :
    (Response.ofRun (session.run limit stopDuring).1).Bounded := by
  generalize ran : session.run limit stopDuring = answer
  cases ran ▸ session.run_answers limit stopDuring with
  | @ended total reason within passed full => exact session.bounded_snapshots total
  | @failed total within passed fails => exact (session.after total).cpu.fits_pc_step

/-- The answer to a request keeps to the widths where what is remembered does. -/
theorem RecordBounded.bounded_respond (remembered : session.RecordBounded) (request : Request) :
    (session.respond request).1.Bounded := by
  cases request with
  | writeRegister name value =>
    unfold Session.respond
    dsimp only
    split
    · exact trivial
    · exact trivial
  | step => exact session.cpu.fits_pc_step
  | loadSource source => exact LineMap.linesBounded_entries _
  | stepInstruction => exact session.bounded_ofStep
  | run limit stopDuring => exact session.bounded_ofRun limit stopDuring
  | look => exact remembered.visible
  | list start length => exact fun line _ => fits_word line.address
  | _ => exact trivial

/-- Work keeps to the widths. Whatever numbers a session is set up with and whatever is asked of it
with numbers of any size, the state that it reaches has registers, pairs and memory of their
widths, and so has all that it answers on the way. -/
theorem perform_within_widths (starts : Starts configuration session) (requests : List Request) :
    (session.perform requests).cpu.state.Bounded ∧
      ∀ response ∈ session.responses requests, response.Bounded := by
  have first : session.RecordBounded :=
    ⟨[], starts.remembers, fun _ listed => absurd listed List.not_mem_nil⟩
  have kept (before : Session) (request : Request) (remembered : before.RecordBounded) :
      (before.respond request).2.RecordBounded := remembered.respond request
  refine ⟨State.bounded _, ?_⟩
  intro response given
  obtain ⟨before, request, remembered, rfl⟩ := exists_of_mem_responsesFrom kept first given
  exact remembered.bounded_respond request

/-- Numbers far outside every range leave a session within the widths: an initial interrupt mode of
-1 shows as 255, and a run that wraps at the end of the address space goes on at 0. -/
theorem perform_within_widths_wild :
    let initialState : InitialState :=
      { pc := -65537, sp := 100000, registers := [(.byte .im, .number (-1))] }
    let configuration : Configuration := { initialState }
    let requests : List Request :=
      [.writeRegister "a" 1023, .writeMemory (-1) 828, .setPc (-1), .run (some 2) none, .look]
    ∃ session, build configuration = .ok session ∧ Starts configuration session ∧
      (session.perform requests).cpu.state.registers.display.lookup "IM" = some 255 ∧
      (session.perform requests).cpu.state.registers.display.lookup "A" = some 0 ∧
      (session.perform requests).recent.map (·.result.pc) = [0, 65535] ∧
      (session.perform requests).cpu.state.Bounded ∧
      ∀ response ∈ session.responses requests, response.Bounded := by
  intro initialState configuration requests
  refine ⟨_, rfl, ?_⟩
  generalize built : Session.reset _ = session
  have starts : Starts configuration session := .built (congrArg Except.ok built)
  refine ⟨starts, ?_, ?_, ?_, perform_within_widths starts requests⟩
  · rw [← built]
    decide +kernel
  · rw [← built]
    decide +kernel
  · rw [← built]
    decide +kernel

end Session

end Z80Monitor
