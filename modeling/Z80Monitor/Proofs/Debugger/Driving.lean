import Z80Monitor.Proofs.Debugger.Requests

/-!
# Requests and the processor

As far as cycles and the halted flag are concerned, a request other than a reset either leaves the
processor alone or makes it step. What a step does is then all that has to be known of a request:
moving the program counter, writing to registers and memory and loading a program count for
nothing.
-/

namespace Z80Monitor

/-- Whether a request puts the processor back to its state at power-on. -/
def Request.resets : Request → Bool
  | .resetCpu | .reset => true
  | _ => false

/-- What some requests keep holds behind all work that consists of such requests. -/
theorem holds_performFrom_of_forall {Whole : Type} {respond : Whole → Request → Response × Whole}
    {holds : Whole → Prop} {admitted : Request → Prop}
    (kept : ∀ whole request, admitted request → holds whole → holds (respond whole request).2)
    {whole : Whole} (first : holds whole) {requests : List Request}
    (all : ∀ request ∈ requests, admitted request) :
    holds (performFrom respond whole requests) := by
  induction requests generalizing whole with
  | nil => exact first
  | cons request rest ih =>
    obtain ⟨here, behind⟩ := List.forall_mem_cons.mp all
    exact ih (kept whole request here first) behind

/-- Writing to a register changes nothing but the registers. -/
theorem Cpu.exists_registers_of_writeNamed {cpu other : Cpu} {name : String} {value : Int}
    (written : cpu.writeNamed name value = .ok other) :
    ∃ registers, { cpu with state := { cpu.state with registers } } = other := by
  unfold writeNamed at written
  cases named : cpu.state.registers.writeNamed name value with
  | ok registers =>
    rw [named] at written
    exact ⟨registers, Except.ok.inj written⟩
  | error error =>
    rw [named] at written
    cases written

namespace Session

/-- What the steps do that a request lets the processor make, in order. The steps of a run that
fails count as well. -/
def resultsOf (session : Session) : Request → List StepResult
  | .step => [session.cpu.step.1]
  | request => (session.snapshotsOf request).map (·.result)

/-- What a request other than a reset can do to the processor, given what its steps do. -/
inductive Drives (session : Session) : List StepResult → Cpu → Prop where
  /-- The request makes no step and leaves the halted flag and the cycles alone. -/
  | idle {cpu : Cpu} (halted : cpu.state.halted = session.cpu.state.halted)
      (cycles : cpu.state.cycles = session.cpu.state.cycles) : Drives session [] cpu
  /-- The request makes steps. -/
  | stepped (made : Nat) :
      Drives session ((session.snapshots made).map (·.result)) (session.after made).cpu

/-- A request other than a reset lets the processor step or leaves it alone. -/
theorem drives_respond (session : Session) {request : Request} (kept : request.resets = false) :
    session.Drives (session.resultsOf request) (session.respond request).2.cpu := by
  cases request with
  | writeRegister name value =>
    unfold respond
    dsimp only
    split
    · rename_i written
      obtain ⟨registers, rfl⟩ := Cpu.exists_registers_of_writeNamed written
      exact .idle rfl rfl
    · exact .idle rfl rfl
  | step => exact .stepped 1
  | stepInstruction => exact .stepped 1
  | run limit stopDuring =>
    obtain ⟨total, snapshots, left⟩ := session.exists_runSnapshots_eq limit stopDuring
    change session.Drives ((session.runSnapshots limit stopDuring).map (·.result))
      (session.run limit stopDuring).2.cpu
    rw [snapshots, left]
    exact .stepped total
  | resetCpu => cases kept
  | reset => cases kept
  | _ => exact .idle rfl rfl

/-- A reset leaves the processor running with no cycles spent. -/
theorem cpu_respond_of_resets (session : Session) {request : Request}
    (resets : request.resets = true) :
    (session.respond request).2.cpu.state.halted = false ∧
      (session.respond request).2.cpu.state.cycles = 0 := by
  cases request with
  | resetCpu => exact ⟨rfl, rfl⟩
  | reset => exact ⟨rfl, rfl⟩
  | _ => cases resets

end Session

end Z80Monitor
