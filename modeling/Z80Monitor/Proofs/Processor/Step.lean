import Z80Monitor.Processor.Step
import Z80Monitor.Proofs.Instruction.Effect
import Z80Monitor.Proofs.Memory.Placement

/-!
# What a step does

A step is one of three things: nothing where the processor is halted, four cycles where the
opcode stands for no instruction, and otherwise the effect of the instruction that stands at the
program counter. `Instruction.Listed` picks out the instructions of the opcode table, and
whatever memory holds behind an opcode of the table is such an instruction.
-/

namespace Z80Monitor

/-- The instructions that the opcodes of the table stand for. -/
inductive Instruction.Listed : Instruction → Prop where
  /-- Do nothing. -/
  | nop : Listed .nop
  /-- Stop. -/
  | halt : Listed .halt
  /-- Add one to A. -/
  | increment : Listed (.increment .a)
  /-- Take one from A. -/
  | decrement : Listed (.decrement .a)
  /-- Add B to A. -/
  | add : Listed (.add .b)
  /-- Clear A. -/
  | xor : Listed (.xor .a)
  /-- Put a value into a register. -/
  | load {target : Operand} (named : target ≠ .atHL) (value : UInt8) : Listed (.load target value)
  /-- Go to an address. -/
  | jump (target : UInt16) : Listed (.jump target)
  /-- Go to an address relative to the next instruction. -/
  | jumpRelative (offset : UInt8) : Listed (.jumpRelative offset)

/-- The accesses of reading bytes at consecutive addresses from `address` on. -/
def readsFrom (address : Int) : List UInt8 → List Access
  | [] => []
  | value :: rest => ⟨.read, word address, value⟩ :: readsFrom (address + 1) rest

/-- Reading a byte that stands in memory gives the byte and records it. -/
theorem Bus.read_of_peek {memory : Memory} {address : Int} {value : UInt8}
    (held : memory.peek address = value) (log : List Access) :
    Bus.read ⟨memory, log⟩ address =
      (value, ⟨memory, log ++ [⟨.read, word address, value⟩]⟩) := by
  unfold Bus.read
  rw [held]

namespace Instruction

/-- The family of an instruction. -/
def family : Instruction → Family
  | .nop => .nop
  | .halt => .halt
  | .increment _ => .step
  | .decrement _ => .step
  | .add _ => .add
  | .xor _ => .xor
  | .load _ _ => .load
  | .jump _ => .jump
  | .jumpRelative _ => .jumpRelative

variable {instruction : Instruction}

/-- A listed instruction has a register as its operand, if it has one. -/
theorem Listed.operand?_ne (listed : instruction.Listed) :
    instruction.operand? ≠ some .atHL := by
  cases listed with
  | load named value => exact fun same => named (Option.some.inj same)
  | _ => exact fun same => nomatch same

/-- The opcode table has the opcode of a listed instruction under the instruction's family. -/
theorem Listed.ofOpcode?_opcode (listed : instruction.Listed) :
    Family.ofOpcode? instruction.opcode.toNat = some instruction.family := by
  cases listed with
  | @load target named value => cases target <;> first | rfl | exact absurd rfl named
  | _ => rfl

/-- The description of a listed instruction shows the instruction's own opcode. -/
theorem Listed.shownOpcode_opcode (listed : instruction.Listed) :
    instruction.family.shownOpcode instruction.opcode.toNat = instruction.opcode.toNat := by
  cases listed <;> rfl

/-- The opcode of a load has the code of its target in its bits 3 to 5. -/
theorem toNat_opcode_load (target : Operand) (value : UInt8) :
    ((load target value).opcode.toNat : Int) = 6 + 8 * target.code := by
  cases target <;> rfl

/-- Reading an instruction that stands in memory gives the instruction back, and records its
bytes behind the opcode. -/
theorem Listed.decode_opcode (listed : instruction.Listed) {memory : Memory} {pc : Int}
    (held : memory.Holds pc instruction.encode) (log : List Access) :
    instruction.family.decode instruction.opcode.toNat pc ⟨memory, log⟩ =
      (instruction, ⟨memory, log ++ readsFrom (pc + 1) instruction.operandBytes⟩) := by
  cases listed with
  | @load target named value =>
    obtain ⟨_, first, _⟩ := held
    have bits : (6 + 8 * (target.code : Int)) / 8 = target.code := by omega
    simp only [family, Family.decode, Bus.read_of_peek first, toNat_opcode_load, bits,
      Operand.ofBits_code, operandBytes, readsFrom]
  | jump target =>
    obtain ⟨_, low, high, _⟩ := held
    have second : pc + 1 + 1 = pc + 2 := by omega
    rw [second] at high
    simp only [family, Family.decode, Bus.read_of_peek low, Bus.read_of_peek high,
      littleEndian_lowByte_highByte, operandBytes, readsFrom, second, List.append_assoc,
      List.cons_append, List.nil_append]
  | jumpRelative offset =>
    obtain ⟨_, first, _⟩ := held
    simp only [family, Family.decode, Bus.read_of_peek first, operandBytes, readsFrom]
  | _ => exact congrArg (fun log => (_, Bus.mk memory log)) (List.append_nil log).symm

/-- Decoding the opcode of an instruction that stands in memory gives the instruction's
description. -/
theorem Listed.describe_opcode (listed : instruction.Listed) {memory : Memory} {pc : Int}
    (held : memory.Holds pc instruction.encode) (log : List Access) :
    Operation.decode instruction.opcode.toNat pc ⟨memory, log⟩ =
      (instruction.describe instruction.opcode.toNat pc,
        ⟨memory, log ++ readsFrom (pc + 1) instruction.operandBytes⟩) := by
  rw [Operation.decode_of_some listed.ofOpcode?_opcode, Family.describe, listed.decode_opcode held,
    listed.shownOpcode_opcode]

/-- The description of an instruction that stands in memory is carried out as the instruction. -/
theorem Listed.execute_describe (listed : instruction.Listed) {memory : Memory} {pc : Int}
    (held : memory.Holds pc instruction.encode) (state : State) :
    (instruction.describe instruction.opcode.toNat pc).execute state =
      (instruction.execute state).map fun after => (true, after) := by
  have carried := Operation.execute_decode_of_some listed.ofOpcode?_opcode pc ⟨memory, []⟩ state
  rwa [listed.describe_opcode held, listed.decode_opcode held] at carried

end Instruction

/-- An instruction stands in memory where its opcode and its operand bytes do. -/
theorem Memory.holds_encode {memory : Memory} {pc : Int} {instruction : Instruction}
    (opcode : ((memory.peek pc).toNat : Int) = instruction.opcode.toNat)
    (operands : memory.Holds (pc + 1) instruction.operandBytes) :
    memory.Holds pc instruction.encode :=
  ⟨UInt8.toNat_inj.mp (Int.ofNat.inj opcode), operands⟩

/-- Behind an opcode of the tables stands a listed instruction. -/
theorem Memory.exists_listed_holds (memory : Memory) (pc : Int) {family : Family}
    (found : Family.ofOpcode? (memory.peek pc).toNat = some family) :
    ∃ instruction : Instruction, instruction.Listed ∧ memory.Holds pc instruction.encode := by
  have loaded (target : Operand) (named : target ≠ .atHL)
      (opcode : ((memory.peek pc).toNat : Int) = 6 + 8 * target.code) :
      ∃ instruction : Instruction, instruction.Listed ∧ memory.Holds pc instruction.encode := by
    rw [← Instruction.toNat_opcode_load target (memory.peek (pc + 1))] at opcode
    exact ⟨_, .load named (memory.peek (pc + 1)), holds_encode opcode ⟨rfl, trivial⟩⟩
  unfold Family.ofOpcode? at found
  split at found <;> rename_i opcode
  · exact ⟨.nop, .nop, holds_encode opcode trivial⟩
  · exact loaded .b (by decide) opcode
  · exact loaded .c (by decide) opcode
  · exact loaded .d (by decide) opcode
  · exact ⟨.jumpRelative _, .jumpRelative _, holds_encode opcode ⟨rfl, trivial⟩⟩
  · exact loaded .e (by decide) opcode
  · exact loaded .h (by decide) opcode
  · exact loaded .l (by decide) opcode
  · exact ⟨.increment .a, .increment, holds_encode opcode trivial⟩
  · exact ⟨.decrement .a, .decrement, holds_encode opcode trivial⟩
  · exact loaded .a (by decide) opcode
  · exact ⟨.halt, .halt, holds_encode opcode trivial⟩
  · exact ⟨.add .b, .add, holds_encode opcode trivial⟩
  · exact ⟨.xor .a, .xor, holds_encode opcode trivial⟩
  · refine ⟨.jump _, .jump (littleEndian (memory.peek (pc + 1)) (memory.peek (pc + 1 + 1))),
      holds_encode opcode ⟨?_, ?_, trivial⟩⟩
    · exact (lowByte_littleEndian _ _).symm
    · exact (highByte_littleEndian _ _).symm
  · cases found

namespace Cpu

variable (cpu : Cpu)

/-- A halted processor stays as it is; only the record of its accesses is emptied. -/
theorem step_of_halted (halted : cpu.state.halted = true) :
    cpu.step = ({ cycles := 0, status := .halted, pc := cpu.pc.toNat },
      { cpu with lastBus := [], log := [] }) := by
  have made := cpu.attempt_eq_step
  unfold attempt at made
  dsimp only at made
  rw [if_pos halted] at made
  exact (Except.ok.inj made).symm

/-- An opcode that stands for no instruction costs four cycles and moves the program counter past
itself. -/
theorem step_of_unlisted (running : cpu.state.halted = false)
    (absent : Family.ofOpcode? (cpu.state.memory.peek cpu.pc.toNat).toNat = none) :
    let opcode := cpu.state.memory.peek cpu.pc.toNat
    cpu.step =
      ({ cycles := 4, status := .unimplemented, pc := cpu.pc.toNat,
         operation := some (Operation.unknown opcode.toNat) },
        { state := { cpu.state with
            registers := { cpu.state.registers with pc := word (cpu.pc.toNat + 1) }
            cycles := cpu.state.cycles + 4 }
          lastBus := readsFrom cpu.pc.toNat [opcode] }) := by
  intro opcode
  have made := cpu.attempt_eq_step
  have unknown : Family.ofOpcode? (cpu.state.memory.peek cpu.state.pc.toNat).toNat = none := absent
  unfold attempt at made
  simp only [running, Bool.false_eq_true, if_false, bus, Bus.takeLog, Bus.attach,
    Bus.read_of_peek rfl, Operation.execute_decode_of_none unknown] at made
  rw [Operation.decode_of_none unknown] at made
  exact (Except.ok.inj made).symm

/-- An instruction that stands at the program counter is carried out. -/
theorem step_of_listed (running : cpu.state.halted = false) {instruction : Instruction}
    (listed : instruction.Listed)
    (held : cpu.state.memory.Holds cpu.pc.toNat instruction.encode) :
    cpu.step =
      ({ cycles := instruction.cycles, status := .executed, pc := cpu.pc.toNat,
         operation := some (instruction.describe instruction.opcode.toNat cpu.pc.toNat) },
        { state := { cpu.state with
            registers := instruction.resultAt cpu.pc.toNat cpu.state.registers
            halted := instruction == .halt
            cycles := cpu.state.cycles + instruction.cycles }
          lastBus := readsFrom cpu.pc.toNat instruction.encode }) := by
  have made := cpu.attempt_eq_step
  have standing : cpu.state.memory.Holds cpu.state.pc.toNat instruction.encode := held
  have fetched := standing.1
  have executed := Instruction.execute_setPc listed.operand?_ne cpu.state cpu.state.pc.toNat
  rw [running, Bool.or_false] at executed
  unfold attempt at made
  simp only [running, Bool.false_eq_true, if_false, bus, Bus.takeLog, Bus.attach,
    Bus.read_of_peek fetched, listed.describe_opcode standing,
    listed.execute_describe standing] at made
  rw [show (instruction.describe _ _).length = instruction.length from rfl, executed] at made
  exact (Except.ok.inj made).symm

/-- The processor is halted, or about to read an opcode that stands for no instruction, or about to
carry out an instruction of the table. -/
theorem next_cases :
    cpu.state.halted = true ∨
      (cpu.state.halted = false ∧
        Family.ofOpcode? (cpu.state.memory.peek cpu.pc.toNat).toNat = none) ∨
      (cpu.state.halted = false ∧ ∃ instruction : Instruction, instruction.Listed ∧
        cpu.state.memory.Holds cpu.pc.toNat instruction.encode) := by
  cases halted : cpu.state.halted with
  | true => exact .inl rfl
  | false =>
    cases found : Family.ofOpcode? (cpu.state.memory.peek cpu.pc.toNat).toNat with
    | none => exact .inr (.inl ⟨rfl, rfl⟩)
    | some family => exact .inr (.inr ⟨rfl, cpu.state.memory.exists_listed_holds _ found⟩)

/-- A step discards what is on record before it. -/
theorem step_with_log (log : List Access) : step { cpu with log } = cpu.step := by
  have same : attempt { cpu with log } = cpu.attempt := rfl
  rw [attempt_eq_step, attempt_eq_step] at same
  exact Except.ok.inj same

/-- A step leaves nothing on record. -/
theorem log_step : cpu.step.2.log = [] := by
  rcases cpu.next_cases with halted | ⟨running, absent⟩ | ⟨running, instruction, listed, held⟩
  · rw [cpu.step_of_halted halted]
  · rw [cpu.step_of_unlisted running absent]
  · rw [cpu.step_of_listed running listed held]

/-- No step changes the memory. -/
theorem memory_step : cpu.step.2.state.memory = cpu.state.memory := by
  rcases cpu.next_cases with halted | ⟨running, absent⟩ | ⟨running, instruction, listed, held⟩
  · rw [cpu.step_of_halted halted]
  · rw [cpu.step_of_unlisted running absent]
  · rw [cpu.step_of_listed running listed held]

end Cpu

end Z80Monitor
