import Z80Monitor.Instruction.Family
import Z80Monitor.Processor.State
import Z80Monitor.Register.Arithmetic

/-!
# Carrying out an instruction

What an instruction does to the registers and to the halted flag, the program counter being past
the instruction already. An instruction whose operand is no register is refused, and so is a
description without the bytes that its executor looks for; what is decoded by the tables is
neither.
-/

namespace Z80Monitor

namespace Instruction

/-- Carry out an instruction on a state whose program counter is past it. -/
def execute (instruction : Instruction) (state : State) : Except OperandFault State :=
  let registers := state.registers
  match instruction with
  | .nop => .ok state
  | .halt => .ok { state with halted := true }
  | .increment target => do
    let value ← target.read registers
    let result : Int := value.toNat + 1
    let stored ← target.write registers result
    .ok { state with registers := stored.flagsAfterIncrement value.toNat result }
  | .decrement target => do
    let value ← target.read registers
    let result : Int := value.toNat - 1
    let stored ← target.write registers result
    .ok { state with registers := stored.flagsAfterDecrement value.toNat result }
  | .add source => do
    let value ← source.read registers
    let sum : Int := registers.a.toNat + value.toNat
    let stored := registers.setByte .a (byte sum)
    .ok { state with registers := stored.flagsAfterAdd registers.a.toNat value.toNat sum }
  | .xor source => do
    let value ← source.read registers
    let result := registers.a ^^^ value
    .ok { state with registers := (registers.setByte .a result).flagsAfterLogic result.toNat }
  | .load target value => do
    let stored ← target.write registers value.toNat
    .ok { state with registers := stored }
  | .jump target => .ok (state.setPc target.toNat)
  | .jumpRelative offset => .ok (state.setPc (state.pc.toNat + signed offset))

/-- An instruction is carried out unless its operand is the byte at the address in HL. -/
theorem exists_execute_eq_ok {instruction : Instruction}
    (named : instruction.operand? ≠ some .atHL) (state : State) :
    ∃ after, instruction.execute state = .ok after := by
  cases instruction with
  | nop => exact ⟨_, rfl⟩
  | halt => exact ⟨_, rfl⟩
  | increment target => cases target <;> first | exact ⟨_, rfl⟩ | exact absurd rfl named
  | decrement target => cases target <;> first | exact ⟨_, rfl⟩ | exact absurd rfl named
  | add source => cases source <;> first | exact ⟨_, rfl⟩ | exact absurd rfl named
  | xor source => cases source <;> first | exact ⟨_, rfl⟩ | exact absurd rfl named
  | load target value => cases target <;> first | exact ⟨_, rfl⟩ | exact absurd rfl named
  | jump target => exact ⟨_, rfl⟩
  | jumpRelative offset => exact ⟨_, rfl⟩

end Instruction

/-- Carry out what a description shows by the executor of a family, on a state whose program
counter is past the instruction. -/
def Family.execute (family : Family) (operation : Operation) (state : State) :
    Except OperandFault State := do
  let instruction ← family.recover operation
  instruction.execute state

/-- The executor of a family carries out the instruction that the decoder of the family read. -/
theorem Family.execute_describe (family : Family) (opcode pc : Int) (bus : Bus) (state : State) :
    family.execute (family.describe opcode pc bus).1 state =
      (family.decode opcode pc bus).1.execute state := by
  unfold execute
  rw [recover_describe]
  rfl

namespace Operation

/-- Carry out what a description shows by the executor that the table has for its opcode, and
tell whether there is one. -/
def execute (operation : Operation) (state : State) : Except OperandFault (Bool × State) :=
  match Family.executor? operation.opcode with
  | some family => (family.execute operation state).map fun after => (true, after)
  | none => .ok (false, state)

/-- What is decoded by the table is carried out, unless its operand is no register. -/
theorem execute_decode_of_some {opcode : Int} {family : Family}
    (found : Family.ofOpcode? opcode = some family) (pc : Int) (bus : Bus) (state : State) :
    (decode opcode pc bus).1.execute state =
      ((family.decode opcode pc bus).1.execute state).map fun after => (true, after) := by
  have shown : (family.describe opcode pc bus).1.opcode = opcode := Family.shownOpcode_eq found
  rw [decode_of_some found, execute, shown, Family.executor?_eq, found,
    ← family.execute_describe]

/-- What is decoded as unknown is not carried out. -/
theorem execute_decode_of_none {opcode : Int} (absent : Family.ofOpcode? opcode = none) (pc : Int)
    (bus : Bus) (state : State) : (decode opcode pc bus).1.execute state = .ok (false, state) := by
  have shown : (Operation.unknown opcode).opcode = opcode := rfl
  rw [decode_of_none absent, execute, shown, Family.executor?_eq, absent]

/-- Nothing that is decoded is refused. -/
theorem exists_execute_decode_eq_ok (opcode pc : Int) (bus : Bus) (state : State) :
    ∃ outcome, (decode opcode pc bus).1.execute state = .ok outcome := by
  cases found : Family.ofOpcode? opcode with
  | none => exact ⟨_, execute_decode_of_none found pc bus state⟩
  | some family =>
    obtain ⟨after, executed⟩ := Instruction.exists_execute_eq_ok
      (Family.operand?_decode_ne_atHL found pc bus) state
    rw [execute_decode_of_some found, executed]
    exact ⟨_, rfl⟩

end Operation

end Z80Monitor
