import Z80Monitor.Proofs.Debugger.Driving
import Z80Monitor.Proofs.Debugger.HaltedStep
import Z80Monitor.Proofs.Debugger.RunEnding

/-!
# Halting

A processor is halted by carrying out the opcode of a halt and by nothing else, and only a reset
ends it. In between, every step is refused at no cost and every run ends at once, whatever is
loaded, written or set meanwhile: neither a new program nor another place to go on revives the
processor.
-/

namespace Z80Monitor

/-- A step carried out the opcode of a halt, which stands in memory where the step started. -/
structure StepResult.Halts (result : StepResult) (memory : Memory) : Prop where
  /-- The step carried out an instruction. -/
  executed : result.status = .executed
  /-- The byte that it started at is the opcode. -/
  opcode : memory.peek result.pc = 0x76
  /-- The step tells of an instruction with this opcode. -/
  told : result.operation.map (·.opcode) = some 0x76

/-- Among the instructions of the table only the halt has its opcode. -/
theorem Instruction.Listed.opcode_eq_iff {instruction : Instruction}
    (listed : instruction.Listed) : instruction.opcode = 0x76 ↔ instruction = .halt := by
  constructor
  · intro same
    have found := listed.ofOpcode?_opcode
    rw [same] at found
    have family : Family.halt = instruction.family := Option.some.inj found
    cases instruction <;> first | rfl | cases family
  · rintro rfl
    rfl

namespace Cpu

/-- A step leaves the processor halted where it was so before or carries out a halt. -/
theorem halted_step_iff (cpu : Cpu) :
    cpu.step.2.state.halted = true ↔
      cpu.state.halted = true ∨ cpu.step.1.Halts cpu.state.memory := by
  rcases cpu.next_cases with halted | ⟨running, absent⟩ | ⟨running, instruction, listed, held⟩
  · rw [cpu.step_of_halted halted]
    exact iff_of_true halted (.inl halted)
  · rw [cpu.step_of_unlisted running absent]
    dsimp only
    rw [running]
    refine iff_of_false Bool.false_ne_true ?_
    rintro (revived | halts)
    · cases revived
    · cases halts.executed
  · rw [cpu.step_of_listed running listed held]
    dsimp only
    rw [running, beq_iff_eq, ← listed.opcode_eq_iff]
    constructor
    · intro same
      have told := congrArg (fun opcode : UInt8 => some (opcode.toNat : Int)) same
      exact .inr ⟨rfl, held.1.trans same, told⟩
    · rintro (revived | halts)
      · cases revived
      · exact held.1.symm.trans halts.opcode

end Cpu

namespace Session

/-- Steps leave the processor halted where it was so before or one of them carries out a halt. -/
theorem halted_after_iff (session : Session) (made : Nat) :
    (session.after made).cpu.state.halted = true ↔
      session.cpu.state.halted = true ∨
        ∃ result ∈ (session.snapshots made).map (·.result),
          result.Halts session.cpu.state.memory := by
  induction made with
  | zero => simp [after, snapshots]
  | succ made ih =>
    have step := (session.after made).cpu.halted_step_iff
    rw [ih, session.memory_after made, or_assoc] at step
    simp only [snapshots_succ, List.map_append, List.map_singleton, List.mem_append,
      List.mem_singleton, or_and_right, exists_or, exists_eq_left]
    exact step

variable {session : Session}

/-- Where a request can do something to the processor, its steps halt it or nothing does. -/
theorem Drives.halted_iff {results : List StepResult} {cpu : Cpu}
    (drives : session.Drives results cpu) :
    cpu.state.halted = true ↔
      session.cpu.state.halted = true ∨
        ∃ result ∈ results, result.Halts session.cpu.state.memory := by
  cases drives with
  | idle halted cycles => simp [halted]
  | stepped made => exact session.halted_after_iff made

/-- Behind a request the processor is halted where the request does not reset it and it was halted
before or is halted by one of the steps of the request. -/
theorem halted_respond_iff (session : Session) (request : Request) :
    (session.respond request).2.cpu.state.halted = true ↔
      request.resets = false ∧
        (session.cpu.state.halted = true ∨
          ∃ result ∈ session.resultsOf request, result.Halts session.cpu.state.memory) := by
  cases resets : request.resets with
  | true =>
    rw [(session.cpu_respond_of_resets resets).1]
    simp
  | false =>
    rw [(session.drives_respond resets).halted_iff]
    simp

/-- A session whose processor is halted does nothing more. -/
structure Refuses (session : Session) : Prop where
  /-- The processor is halted. -/
  halted : session.cpu.state.halted = true
  /-- A step of the processor is refused at no cost. -/
  result : session.cpu.step.1.status = .halted ∧ session.cpu.step.1.cycles = 0
  /-- It changes no register, no byte and no cycle count, and leaves the processor halted. -/
  state : session.cpu.step.2.state = session.cpu.state
  /-- A step of the session is the same step, under every policy. -/
  stepInstruction : ∃ snapshot after, session.stepInstruction = (.ok snapshot, after) ∧
    snapshot.result = session.cpu.step.1 ∧ after.cpu.state = session.cpu.state
  /-- A run that is admitted a step ends without one and changes nothing, the history included. -/
  run (limit : Option Int) (stopDuring : Option Nat)
    (admitted : 1 ≤ limit.getD session.configuration.stepsPerTick) :
    session.run limit stopDuring = (.ok ⟨.halted, []⟩, session)

/-- A run that is admitted a step ends in front of it where the processor is halted. -/
theorem run_of_halted (halted : session.cpu.state.halted = true) {limit : Option Int}
    (stopDuring : Option Nat) (admitted : 1 ≤ limit.getD session.configuration.stepsPerTick) :
    session.run limit stopDuring = (.ok ⟨.halted, []⟩, session) := by
  have ended : session.endsBefore (#[] : Array Snapshot).size stopDuring = some .halted := by
    rw [Array.size_empty, endsBefore_zero, if_pos halted]
  obtain ⟨more, steps⟩ : ∃ more,
      (limit.getD session.configuration.stepsPerTick).toNat = more + 1 :=
    ⟨(limit.getD session.configuration.stepsPerTick).toNat - 1, by omega⟩
  rw [run, steps]
  exact runFrom_of_endsBefore ended more

/-- A halted processor does nothing more. -/
theorem refuses_of_halted (halted : session.cpu.state.halted = true) : session.Refuses where
  halted := halted
  result := by
    rw [session.cpu.step_of_halted halted]
    exact ⟨rfl, rfl⟩
  state := by rw [session.cpu.step_of_halted halted]
  stepInstruction := by
    rw [session.cpu.step_of_halted halted]
    exact ⟨_, _, stepInstruction_of_halted halted, rfl, rfl⟩
  run := fun _ stopDuring admitted => run_of_halted halted stopDuring admitted

/-- Halting is lasting. Whatever was asked of a session, a request leaves its processor halted only
where it does not reset it and the processor was halted before or one of the steps of the request
carries out the opcode of a halt. So a processor that is halted stays so through any requests other
than a reset. Behind each of them its steps are refused at no cost and its runs end at once. -/
theorem halted_perform (session : Session) (requests : List Request) :
    let reached := session.perform requests
    (∀ request, (reached.respond request).2.cpu.state.halted = true ↔
      request.resets = false ∧
        (reached.cpu.state.halted = true ∨
          ∃ result ∈ reached.resultsOf request, result.Halts reached.cpu.state.memory)) ∧
    (session.cpu.state.halted = true → (∀ request ∈ requests, request.resets = false) →
      reached.Refuses) := by
  intro reached
  refine ⟨reached.halted_respond_iff, ?_⟩
  intro halted kept
  have stays (before : Session) (request : Request) (other : request.resets = false)
      (still : before.cpu.state.halted = true) :
      (before.respond request).2.cpu.state.halted = true :=
    (before.halted_respond_iff request).mpr ⟨other, .inl still⟩
  exact refuses_of_halted (holds_performFrom_of_forall stays halted kept)

/-- A new program at the program counter does not revive a halted processor. -/
theorem halted_perform_reloaded :
    let halting : List Request := [.loadProgram [0x76] none, .step]
    let reloading : List Request := [.loadSource "INC A", .writeRegister "a" 7, .setPc 0, .step]
    ∃ session, build {} = .ok session ∧
      let halted := session.perform halting
      let reloaded := halted.perform reloading
      halted.cpu.state.halted = true ∧ (∀ request ∈ reloading, request.resets = false) ∧
        reloaded.cpu.pc = 0 ∧ reloaded.cpu.state.memory.peek 0 = 0x3C ∧ reloaded.Refuses := by
  intro halting reloading
  refine ⟨_, rfl, ?_⟩
  intro halted reloaded
  have stopped : halted.cpu.state.halted = true := by decide +kernel
  have kept : ∀ request ∈ reloading, request.resets = false := by decide +kernel
  refine ⟨stopped, kept, ?_, ?_, (halted_perform halted reloading).2 stopped kept⟩
  · decide +kernel
  · decide +kernel

end Session

end Z80Monitor
