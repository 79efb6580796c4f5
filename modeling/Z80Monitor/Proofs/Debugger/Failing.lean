import Z80Monitor.Proofs.Debugger.InitialRegisters

/-!
# What can fail

A configuration that is accepted is refused afterwards for one reason only: it asks for a history
that is longer than any session can remember. Every other session is built, and from then on
nothing fails but steps that meet an opcode that stands for no instruction, where the policy is to
fail. Steps and resets look up registers, as operands and by their names; these look-ups could fail
but never do.
-/

namespace Z80Monitor

/-- A request to load a program, to step, to run or to reset. -/
inductive Request.IsDriving : Request → Prop where
  /-- Assemble a source text and load it. -/
  | loadSource (source : String) : IsDriving (.loadSource source)
  /-- Load bytes. -/
  | loadProgram (data : List Int) (origin : Option Int) : IsDriving (.loadProgram data origin)
  /-- Make one step. -/
  | stepInstruction : IsDriving .stepInstruction
  /-- Run. -/
  | run (limit : Option Int) (stopDuring : Option Nat) : IsDriving (.run limit stopDuring)
  /-- Reset the session. -/
  | reset : IsDriving .reset

/-- An answer tells of no failure, or of one that the policy makes of an opcode that stands for no
instruction. -/
def Response.AdmittedBy (policy : UnimplementedPolicy) : Response → Prop
  | .refused _ => False
  | .failed failure => policy = .fail ∧ failure.result.status = .unimplemented
  | _ => True

namespace Cpu

variable (cpu : Cpu)

/-- Write to registers that are given by their names, one after the other. -/
def writeAllNamed : Cpu → List (String × Int) → Except RegisterError Cpu
  | cpu, [] => .ok cpu
  | cpu, (name, value) :: rest => do writeAllNamed (← cpu.writeNamed name value) rest

/-- Writing to a register by its name is not refused. -/
theorem writeNamed_name (register : Register) (value : Int) :
    cpu.writeNamed register.name value = .ok (cpu.writeRegister register value) := by
  rw [writeNamed, Registers.writeNamed, Register.ofName?_name]
  rfl

/-- Writing to registers by their names is not refused. -/
theorem writeAllNamed_map_name (entries : List (Register × RegisterValue)) :
    cpu.writeAllNamed (entries.map fun (register, value) => (register.name, value.toInt)) =
      .ok { cpu with state := { cpu.state with
        registers := cpu.state.registers.writeAll entries } } := by
  induction entries generalizing cpu with
  | nil => rfl
  | cons entry rest ih =>
    rw [List.map_cons, writeAllNamed, writeNamed_name]
    exact ih _

end Cpu

namespace Session

variable (session : Session)

/-- The reset of a session that looks up every register by its name. -/
def resetNamed : Except RegisterError Session := do
  let initial := session.configuration.initialState
  let cpu ← session.cpu.reset.writeNamed "pc" initial.pc
  let cpu ← cpu.writeNamed "sp" initial.sp
  let cpu ← cpu.writeAllNamed
    (initial.registers.map fun (register, value) => (register.name, value.toInt))
  .ok { session with cpu, recent := [], last := none, previousPc := some cpu.pc }

/-- No name is refused in a reset. -/
theorem resetNamed_eq : session.resetNamed = .ok session.reset := by
  have pc := session.cpu.reset.writeNamed_name (.word .pc)
    session.configuration.initialState.pc
  have sp := (session.cpu.reset.writeRegister (.word .pc)
    session.configuration.initialState.pc).writeNamed_name (.word .sp)
      session.configuration.initialState.sp
  simp only [resetNamed, show "pc" = (Register.word .pc).name from rfl,
    show "sp" = (Register.word .sp).name from rfl, pc, sp, bind, Except.bind,
    Cpu.writeAllNamed_map_name, reset, InitialState.apply_eq]
  rfl

/-- A session in which nothing fails unless the policy makes a failure of it. -/
structure FailsByPolicy : Prop where
  /-- The operands of the next instruction are registers. -/
  operands : session.cpu.attempt = .ok session.cpu.step
  /-- The registers of a reset are found under their names. -/
  names : session.resetNamed = .ok session.reset
  /-- A step fails exactly at an opcode that stands for no instruction, where the policy is to
  fail. -/
  step (failure : UnimplementedOpcode) : session.stepInstruction.1 = .error failure ↔
    session.configuration.onUnimplemented = .fail ∧
      session.cpu.step.1.status = .unimplemented ∧ failure = ⟨session.cpu.step.1⟩
  /-- A request to load, step, run or reset tells of no other failure. -/
  answer {request : Request} (driving : request.IsDriving) :
    (session.respond request).1.AdmittedBy session.configuration.onUnimplemented

/-- How a step fails. -/
theorem stepInstruction_eq_error_iff (failure : UnimplementedOpcode) :
    session.stepInstruction.1 = .error failure ↔
      session.configuration.onUnimplemented = .fail ∧
        session.cpu.step.1.status = .unimplemented ∧ failure = ⟨session.cpu.step.1⟩ := by
  have cause := session.fails_iff session.advance.1
  rw [show session.advance.1.result = session.cpu.step.1 from rfl] at cause
  rw [← and_assoc, ← cause]
  cases fails : session.fails session.advance.1 with
  | true =>
    rw [stepInstruction_of_failing fails]
    constructor
    · rintro ⟨⟩
      exact ⟨rfl, rfl⟩
    · rintro ⟨_, rfl⟩
      rfl
  | false =>
    rw [stepInstruction_of_fails fails]
    exact iff_of_false nofun fun failing => nomatch failing.1

/-- What a step answers is admitted. -/
theorem admittedBy_ofStep :
    (Response.ofStep session.stepInstruction.1).AdmittedBy
      session.configuration.onUnimplemented := by
  cases answer : session.stepInstruction.1 with
  | ok snapshot => exact trivial
  | error failure =>
    obtain ⟨policy, status, rfl⟩ := (session.stepInstruction_eq_error_iff failure).mp answer
    exact ⟨policy, status⟩

/-- What a run answers is admitted. -/
theorem admittedBy_ofRun (limit : Option Int) (stopDuring : Option Nat) :
    (Response.ofRun (session.run limit stopDuring).1).AdmittedBy
      session.configuration.onUnimplemented := by
  generalize ran : session.run limit stopDuring = answer
  cases ran ▸ session.run_answers limit stopDuring with
  | @ended total reason within passed full => exact trivial
  | @failed total within passed fails => exact (session.fails_iff _).mp fails

/-- In every session nothing fails unless the policy makes a failure of it. -/
theorem failsByPolicy : session.FailsByPolicy where
  operands := session.cpu.attempt_eq_step
  names := session.resetNamed_eq
  step := session.stepInstruction_eq_error_iff
  answer driving := by
    cases driving with
    | stepInstruction => exact session.admittedBy_ofStep
    | run limit stopDuring => exact session.admittedBy_ofRun limit stopDuring
    | _ => exact trivial

/-- A configuration that is read from data is refused later on exactly where the history limit that
the data gives is above the greatest one. Otherwise a session is built in which nothing fails
unless the policy makes a failure of it, whatever is asked of it before. -/
theorem build_of_accepted {value : Value} {configuration : Configuration}
    (accepted : Configuration.ofValue value = .ok configuration) :
    ∃ entries limit, value.entries? = some entries ∧
      Configuration.readField entries "history_limit" 64 = .ok limit ∧
      ((greatestHistoryLimit : Int) < limit → build configuration = .error ⟨limit.toNat⟩) ∧
      (limit ≤ (greatestHistoryLimit : Int) → ∃ session, build configuration = .ok session ∧
        ∀ requests, (session.perform requests).FailsByPolicy) := by
  obtain ⟨entries, mapping, made⟩ := Configuration.ofValue_eq_ok_iff.mp accepted
  obtain ⟨_, _, history, _, _⟩ := Configuration.ofEntries_eq_ok_iff.mp made
  refine ⟨entries, configuration.historyLimit, mapping, history, fun above => ?_,
    fun within => ?_⟩
  · rw [build_eq, if_neg (by omega), Int.toNat_natCast]
  · refine ⟨_, (build_eq configuration).trans (if_pos (by omega)), fun requests => ?_⟩
    exact failsByPolicy _

/-- A session that meets an opcode that stands for no instruction under the policy to fail. -/
theorem build_of_accepted_failing :
    let value : Value := .mapping
      [(.text "history_limit", .text "0x10"), (.text "on_unimplemented", .text "Raise")]
    let configuration : Configuration := { historyLimit := 16, onUnimplemented := .fail }
    let requests : List Request := [.loadProgram [0, 0xED] none, .stepInstruction]
    Configuration.ofValue value = .ok configuration ∧
      ∃ session, build configuration = .ok session ∧
        (session.perform requests).FailsByPolicy ∧
        (session.perform requests).stepInstruction.1 =
          .error ⟨(session.perform requests).cpu.step.1⟩ := by
  intro value configuration requests
  have accepted : Configuration.ofValue value = .ok configuration := by rfl
  obtain ⟨entries, limit, mapping, read, _, built⟩ := build_of_accepted accepted
  obtain rfl : _ = entries := Option.some.inj mapping
  have small : Configuration.readField
      [(.text "history_limit", .text "0x10"), (.text "on_unimplemented", .text "Raise")]
      "history_limit" 64 = .ok 16 := by rfl
  obtain rfl : 16 = limit := Except.ok.inj (small.symm.trans read)
  obtain ⟨session, made, behind⟩ := built (by decide)
  refine ⟨accepted, session, made, behind requests, ?_⟩
  have same := eq_of_build made
  refine ((behind requests).step _).mpr ⟨?_, ?_, rfl⟩
  · rw [same]
    decide +kernel
  · rw [same]
    decide +kernel

/-- A history that is too long by one is accepted and then refused. -/
theorem accepted_history_refused :
    let value : Value := .mapping [(.text "history_limit", .integer 0x8000000000000000)]
    ∃ configuration, Configuration.ofValue value = .ok configuration ∧
      build configuration = .error ⟨0x8000000000000000⟩ :=
  ⟨{ historyLimit := 0x8000000000000000 }, rfl, rfl⟩

end Session

end Z80Monitor
