import Z80Monitor.Proofs.Processor.Step

/-!
# The opcode table

The opcode table as the manual gives it: one row for each opcode, with the spelling and the cost
of the instruction, the place where the processor goes on and what becomes of the registers. Its
steps say what a step of the processor is without reading over a bus, decoding and carrying out.
The main statement says that the processor takes the steps of the table, refusing none.
-/

namespace Z80Monitor

/-- A row of the opcode table, for an instruction whose place and operand bytes are known. -/
structure OpcodeRow where
  /-- The mnemonic. -/
  mnemonic : String
  /-- The operands as they are spelled. -/
  operands : List String := []
  /-- The bytes behind the opcode that belong to the instruction. -/
  operandBytes : List UInt8 := []
  /-- The clock cycles that the instruction takes. -/
  cycles : Nat := 4
  /-- Where the processor goes on, if not behind the instruction. -/
  target : Option Int := none
  /-- What becomes of the registers, the program counter apart. -/
  effect : Registers → Registers := id
  /-- Whether the instruction stops the processor. -/
  halts : Bool := false

namespace OpcodeRow

/-- The bytes that the instruction takes, opcode included. -/
def length (row : OpcodeRow) : Nat := row.operandBytes.length + 1

/-- Where the processor goes on behind the instruction at `pc`. -/
def next (row : OpcodeRow) (pc : Int) : Int := row.target.getD (pc + row.length)

/-- The instruction as a result shows it. -/
def operation (row : OpcodeRow) (opcode : UInt8) : Operation where
  opcode := opcode.toNat
  mnemonic := row.mnemonic
  operands := row.operands
  operandBytes := row.operandBytes
  cycles := row.cycles
  length := row.length

/-- The row of putting a value into a register. -/
def load (target : ByteRegister) (name : String) (value : UInt8) : OpcodeRow where
  mnemonic := "LD"
  operands := [name, String.ofList ('$' :: Text.hexByte value)]
  operandBytes := [value]
  cycles := 7
  effect registers := registers.setByte target value

/-- The row of going to the address with the bytes `low` and `high`. -/
def jump (low high : UInt8) : OpcodeRow :=
  let target : Int := 256 * high.toNat + low.toNat
  { mnemonic := "JP", operands := [String.ofList ('$' :: Text.hex 4 target)]
    operandBytes := [low, high], cycles := 10, target := some target }

/-- The row of going to the address at a distance from the instruction behind `pc`. -/
def jumpRelative (pc : Int) (offset : UInt8) : OpcodeRow :=
  let target : Int := (pc + 2 + signed offset) % 65536
  { mnemonic := "JR", operands := [String.ofList ('$' :: Text.hex 4 target)]
    operandBytes := [offset], cycles := 12, target := some target }

/-- The row of an opcode at `pc` with the bytes `first` and `second` behind it. -/
def ofOpcode? (pc : Int) (first second : UInt8) : Nat → Option OpcodeRow
  | 0x00 => some { mnemonic := "NOP" }
  | 0x06 => some (load .b "B" first)
  | 0x0E => some (load .c "C" first)
  | 0x16 => some (load .d "D" first)
  | 0x18 => some (jumpRelative pc first)
  | 0x1E => some (load .e "E" first)
  | 0x26 => some (load .h "H" first)
  | 0x2E => some (load .l "L" first)
  | 0x3C => some { mnemonic := "INC", operands := ["A"], effect := fun held => held.incremented .a }
  | 0x3D => some { mnemonic := "DEC", operands := ["A"], effect := fun held => held.decremented .a }
  | 0x3E => some (load .a "A" first)
  | 0x76 => some { mnemonic := "HALT", halts := true }
  | 0x80 => some { mnemonic := "ADD", operands := ["A", "B"], effect := fun held => held.added .b }
  | 0xAF => some { mnemonic := "XOR", operands := ["A"], effect := fun held => held.xored .a }
  | 0xC3 => some (jump first second)
  | _ => none

end OpcodeRow

/-- A step as the opcode table has it: nothing where the processor is halted, the row of the
opcode at the program counter where there is one, and four cycles otherwise. -/
def State.tableStep (state : State) : StepResult × State :=
  let pc : Int := state.registers.pc.toNat
  let opcode := state.memory.peek pc
  let first := state.memory.peek ((pc + 1) % 65536)
  let second := state.memory.peek ((pc + 2) % 65536)
  if state.halted then
    ({ cycles := 0, status := .halted, pc, operation := none }, state)
  else
    match OpcodeRow.ofOpcode? pc first second opcode.toNat with
    | some row =>
      ({ cycles := row.cycles, status := .executed, pc, operation := some (row.operation opcode) },
        { registers := { row.effect state.registers with pc := word (row.next pc) }
          memory := state.memory
          halted := row.halts
          cycles := state.cycles + row.cycles })
    | none =>
      ({ cycles := 4, status := .unimplemented, pc, operation := some (.unknown opcode.toNat) },
        { registers := { state.registers with pc := word (pc + 1) }
          memory := state.memory
          halted := false
          cycles := state.cycles + 4 })

namespace Instruction

variable {instruction : Instruction}

/-- Where an instruction at `pc` sends the processor, if not behind itself. -/
def target? (pc : Int) : Instruction → Option Int
  | .jump target => some target.toNat
  | .jumpRelative offset => some (relativeTarget pc offset).toNat
  | _ => none

/-- The row that an instruction at `pc` has in the opcode table. -/
def row (instruction : Instruction) (pc : Int) : OpcodeRow where
  mnemonic := instruction.mnemonic
  operands := instruction.operands pc
  operandBytes := instruction.operandBytes
  cycles := instruction.cycles
  target := instruction.target? pc
  effect := instruction.effect
  halts := instruction == .halt

/-- The row leads where the instruction goes on. -/
theorem word_next_row (instruction : Instruction) (pc : Int) :
    word ((instruction.row pc).next pc) = word (instruction.next pc) := by
  cases instruction with
  | jumpRelative offset => exact word_toNat _
  | _ => rfl

/-- The row shows what the description of the instruction does. -/
theorem operation_row (instruction : Instruction) (pc : Int) (opcode : UInt8) :
    (instruction.row pc).operation opcode = instruction.describe opcode.toNat pc := by
  rw [describe, length_eq]
  rfl

/-- The bytes of an address are those of its number in base 256. -/
theorem highByte_lowByte_eq (target : UInt16) :
    256 * ((highByte target).toNat : Int) + (lowByte target).toNat = target.toNat := by
  have bound := target.toNat_lt
  simp only [highByte, lowByte, UInt8.toNat_ofNat']
  omega

/-- The opcode table has the row of a listed instruction that stands at `pc` under the opcode of
the instruction. -/
theorem Listed.ofOpcode?_eq_row (listed : instruction.Listed) {memory : Memory} {pc : Int}
    (held : memory.Holds pc instruction.encode) :
    OpcodeRow.ofOpcode? pc (memory.peek ((pc + 1) % 65536)) (memory.peek ((pc + 2) % 65536))
      (memory.peek pc).toNat = some (instruction.row pc) := by
  have wrapped (address : Int) : memory.peek (address % 65536) = memory.peek address := by
    apply memory.peek_congr
    rw [word_eq_word_iff]
    omega
  obtain ⟨opcode, operands⟩ := held
  rw [opcode, wrapped, wrapped]
  cases listed with
  | @load target named value =>
    obtain ⟨first, _⟩ := operands
    rw [first]
    cases target with
    | atHL => exact absurd rfl named
    | _ => rfl
  | jump target =>
    obtain ⟨low, high, _⟩ := operands
    rw [show pc + 1 + 1 = pc + 2 by omega] at high
    rw [low, high]
    change some (OpcodeRow.jump _ _) = _
    unfold OpcodeRow.jump
    rw [highByte_lowByte_eq]
    rfl
  | jumpRelative offset =>
    obtain ⟨first, _⟩ := operands
    rw [first]
    change some (OpcodeRow.jumpRelative _ _) = _
    unfold OpcodeRow.jumpRelative
    rw [← toNat_word]
    rfl
  | _ => rfl

end Instruction

/-- The opcode table has no row for an opcode that stands for no instruction. -/
theorem OpcodeRow.ofOpcode?_eq_none {opcode : Nat} (absent : Family.ofOpcode? opcode = none)
    (pc : Int) (first second : UInt8) : ofOpcode? pc first second opcode = none := by
  unfold ofOpcode?
  split <;> first | rfl | cases absent

/-- The processor refuses no step, and its step is that of the opcode table. -/
theorem Cpu.step_eq_tableStep (cpu : Cpu) :
    cpu.attempt = .ok cpu.step ∧ (cpu.step.1, cpu.step.2.state) = cpu.state.tableStep := by
  refine ⟨cpu.attempt_eq_step, ?_⟩
  unfold State.tableStep
  cases halted : cpu.state.halted with
  | true =>
    rw [cpu.step_of_halted halted]
    rfl
  | false =>
    cases found : Family.ofOpcode? (cpu.state.memory.peek cpu.pc.toNat).toNat with
    | none =>
      have absent := OpcodeRow.ofOpcode?_eq_none found
      rw [cpu.step_of_unlisted halted found]
      simp only [Bool.false_eq_true, if_false, halted]
      rw [show cpu.state.registers.pc = cpu.pc from rfl, absent]
    | some family =>
      obtain ⟨instruction, listed, held⟩ :=
        cpu.state.memory.exists_listed_holds cpu.pc.toNat found
      have present := listed.ofOpcode?_eq_row held
      rw [cpu.step_of_listed halted listed held]
      simp only [Bool.false_eq_true, if_false]
      rw [show cpu.state.registers.pc = cpu.pc from rfl, present]
      simp only [instruction.word_next_row, instruction.operation_row, held.1]
      rfl

end Z80Monitor
