import Z80Monitor.Instruction.Operand
import Z80Monitor.Instruction.Operation

/-!
# Instructions

The instructions of the processor with their spelling, their bytes and their cost. A jump shows
the address it leads to: the one it holds, or for a relative jump the one reached from its own
place.
-/

namespace Z80Monitor

/-- The instructions that the processor carries out. -/
inductive Instruction where
  /-- Do nothing. -/
  | nop
  /-- Stop until the next reset. -/
  | halt
  /-- Add one to an operand. -/
  | increment (target : Operand)
  /-- Take one from an operand. -/
  | decrement (target : Operand)
  /-- Add an operand to A. -/
  | add (source : Operand)
  /-- Combine A with an operand by exclusive or. -/
  | xor (source : Operand)
  /-- Put a value into an operand. -/
  | load (target : Operand) (value : UInt8)
  /-- Go to an address. -/
  | jump (target : UInt16)
  /-- Go to an address relative to the next instruction. -/
  | jumpRelative (offset : UInt8)
  deriving DecidableEq, Repr

namespace Instruction

/-- The mnemonic of an instruction. -/
def mnemonic : Instruction → String
  | .nop => "NOP"
  | .halt => "HALT"
  | .increment _ => "INC"
  | .decrement _ => "DEC"
  | .add _ => "ADD"
  | .xor _ => "XOR"
  | .load _ _ => "LD"
  | .jump _ => "JP"
  | .jumpRelative _ => "JR"

/-- The operand that an instruction reads or writes as a register. -/
def operand? : Instruction → Option Operand
  | .increment target => some target
  | .decrement target => some target
  | .add source => some source
  | .xor source => some source
  | .load target _ => some target
  | _ => none

/-- The bytes behind the opcode, the low byte of an address first. -/
def operandBytes : Instruction → List UInt8
  | .load _ value => [value]
  | .jump target => [lowByte target, highByte target]
  | .jumpRelative offset => [offset]
  | _ => []

/-- The number of bytes of an instruction, the opcode included. -/
def length : Instruction → Nat
  | .nop => 1
  | .halt => 1
  | .increment _ => 1
  | .decrement _ => 1
  | .add _ => 1
  | .xor _ => 1
  | .load _ _ => 2
  | .jump _ => 3
  | .jumpRelative _ => 2

/-- The clock cycles that an instruction takes. -/
def cycles : Instruction → Nat
  | .load _ _ => 7
  | .jump _ => 10
  | .jumpRelative _ => 12
  | _ => 4

/-- Where a relative jump that stands at `pc` leads. -/
def relativeTarget (pc : Int) (offset : UInt8) : UInt16 := word (pc + 2 + signed offset)

/-- The operands as they are spelled for an instruction that stands at `pc`. -/
def operands (pc : Int) : Instruction → List String
  | .nop => []
  | .halt => []
  | .increment target => [target.name]
  | .decrement target => [target.name]
  | .add source => ["A", source.name]
  | .xor source => [source.name]
  | .load target value => [target.name, String.ofList ('$' :: Text.hexByte value)]
  | .jump target => [String.ofList ('$' :: Text.hexWord target)]
  | .jumpRelative offset => [String.ofList ('$' :: Text.hexWord (relativeTarget pc offset))]

/-- An instruction is as long as its opcode and the bytes behind it. -/
theorem length_eq (instruction : Instruction) :
    instruction.length = instruction.operandBytes.length + 1 := by
  cases instruction <;> rfl

/-- An instruction has a byte at least. -/
theorem length_pos (instruction : Instruction) : 0 < instruction.length := by
  rw [length_eq]
  exact Nat.succ_pos _

/-- The description of an instruction that stands at `pc` under an opcode. -/
def describe (instruction : Instruction) (opcode pc : Int) : Operation where
  opcode := opcode
  mnemonic := instruction.mnemonic
  operands := instruction.operands pc
  operandBytes := instruction.operandBytes
  cycles := instruction.cycles
  length := instruction.length

end Instruction

end Z80Monitor
