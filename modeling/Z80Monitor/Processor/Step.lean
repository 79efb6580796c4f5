import Z80Monitor.Processor.Execution

/-!
# Steps of the processor

A step discards the record of accesses, reads the instruction at the program counter over the bus,
moves the program counter past it, carries it out and adds its cost, and in the end takes the
record of its own accesses. A halted processor does nothing, and an opcode outside the opcode
tables costs four cycles and does nothing else. No step is refused.
-/

namespace Z80Monitor

/-- How a step ended. -/
inductive StepStatus where
  /-- An instruction was carried out. -/
  | executed
  /-- The processor was halted. -/
  | halted
  /-- The opcode stands for no instruction. -/
  | unimplemented
  deriving DecidableEq, Repr

/-- The name of a status. -/
def StepStatus.name : StepStatus → String
  | .executed => "EXECUTED"
  | .halted => "HALTED"
  | .unimplemented => "UNIMPLEMENTED"

/-- What a step did. -/
structure StepResult where
  /-- The cycles spent. -/
  cycles : Nat
  /-- How the step ended. -/
  status : StepStatus
  /-- Where the instruction stands. -/
  pc : Int
  /-- The instruction, unless the processor was halted. -/
  operation : Option Operation := none
  deriving DecidableEq, Repr

namespace StepResult

/-- Whether the opcode stands for no instruction. -/
def unimplemented (result : StepResult) : Bool := result.status == .unimplemented

/-- Whether the processor was halted before the step. -/
def halted (result : StepResult) : Bool := result.status == .halted

end StepResult

/-- The processor: its state, the accesses of its last step, and the record of accesses that its
memory keeps. -/
structure Cpu where
  /-- Registers, memory, halted flag and cycles. -/
  state : State := {}
  /-- The accesses of the last step, in order. -/
  lastBus : List Access := []
  /-- The accesses since the record of the memory was last taken, in order. -/
  log : List Access := []
  deriving DecidableEq

namespace Cpu

/-- The processor at power-on. -/
def powerOn : Cpu := {}

/-- The program counter. -/
def pc (cpu : Cpu) : UInt16 := cpu.state.pc

/-- The memory with the record of its accesses. -/
def bus (cpu : Cpu) : Bus := ⟨cpu.state.memory, cpu.log⟩

/-- Move the program counter. -/
def setPc (cpu : Cpu) (address : Int) : Cpu := { cpu with state := cpu.state.setPc address }

/-- Write to a register. -/
def writeRegister (cpu : Cpu) (register : Register) (value : Int) : Cpu :=
  { cpu with state := { cpu.state with registers := cpu.state.registers.write register value } }

/-- Write to the register with a name. -/
def writeNamed (cpu : Cpu) (name : String) (value : Int) : Except RegisterError Cpu := do
  let registers ← cpu.state.registers.writeNamed name value
  .ok { cpu with state := { cpu.state with registers } }

/-- Store a value in memory from outside, without a record of it. -/
def writeMemory (cpu : Cpu) (address value : Int) : Cpu :=
  { cpu with state := { cpu.state with memory := cpu.state.memory.poke address value } }

/-- Put a program into memory and move the program counter to its start. Nothing else changes. -/
def loadProgram (cpu : Cpu) (origin : Int) (data : List Int) : Cpu :=
  { cpu with state := { cpu.state with memory := cpu.state.memory.load origin data } }.setPc origin

/-- Return to the state at power-on. The memory is kept, and with it the record of its accesses. -/
def reset (cpu : Cpu) : Cpu := { state := { memory := cpu.state.memory }, log := cpu.log }

/-- Fill the memory with zeros. -/
def clearMemory (cpu : Cpu) : Cpu := { cpu with state := { cpu.state with memory := .blank } }

/-- The processor after an instruction that cost `cycles` left it in `state` and used the bus
as recorded. -/
def finish (state : State) (cycles : Nat) (bus : Bus) : Cpu :=
  let (taken, bus) := bus.takeLog
  { state := { state with cycles := state.cycles + cycles }, lastBus := taken, log := bus.log }

/-- One step, refused where the operand of an instruction is no register or is missing. -/
def attempt (cpu : Cpu) : Except OperandFault (StepResult × Cpu) :=
  let (_, bus) := cpu.bus.takeLog
  let state := cpu.state
  let pc : Int := state.pc.toNat
  if state.halted then
    .ok ({ cycles := 0, status := .halted, pc }, { cpu with lastBus := [], log := bus.log })
  else do
    let (byte, bus) := bus.read pc
    let (operation, bus) := Operation.decode byte.toNat pc bus
    let (implemented, after) ← operation.execute (state.setPc (pc + operation.length))
    let status : StepStatus := if implemented then .executed else .unimplemented
    .ok ({ cycles := operation.cycles, status, pc, operation := some operation },
      finish after operation.cycles bus)

/-- No step is refused: what is decoded can be carried out. -/
theorem exists_attempt_eq_ok (cpu : Cpu) : ∃ outcome, cpu.attempt = .ok outcome := by
  unfold attempt
  dsimp only
  split
  · exact ⟨_, rfl⟩
  · obtain ⟨outcome, executed⟩ := Operation.exists_execute_decode_eq_ok _ _ _ _
    rw [executed]
    exact ⟨_, rfl⟩

/-- One step. -/
def step (cpu : Cpu) : StepResult × Cpu :=
  match made : cpu.attempt with
  | .ok outcome => outcome
  | .error _ => absurd (cpu.exists_attempt_eq_ok) (by simp [made])

/-- A step is what its attempt comes to. -/
theorem attempt_eq_step (cpu : Cpu) : cpu.attempt = .ok cpu.step := by
  unfold step
  split
  · assumption
  · rename_i fault refused
    obtain ⟨outcome, made⟩ := cpu.exists_attempt_eq_ok
    rw [refused] at made
    cases made

end Cpu

end Z80Monitor
