import Z80Monitor.Instruction.Basic

/-!
# Machine code of instructions

The opcode of each instruction, with the codes of its operands in their bits, and the bytes of
an instruction in the order of their addresses.
-/

namespace Z80Monitor.Instruction

/-- The opcode of an instruction. -/
def opcode : Instruction → UInt8
  | .nop => 0x00
  | .halt => 0x76
  | .increment target => UInt8.ofNat (0x04 + 8 * target.code)
  | .decrement target => UInt8.ofNat (0x05 + 8 * target.code)
  | .add source => UInt8.ofNat (0x80 + source.code)
  | .xor source => UInt8.ofNat (0xA8 + source.code)
  | .load target _ => UInt8.ofNat (0x06 + 8 * target.code)
  | .jump _ => 0xC3
  | .jumpRelative _ => 0x18

/-- The bytes of an instruction. -/
def encode (instruction : Instruction) : List UInt8 :=
  instruction.opcode :: instruction.operandBytes

/-- An instruction has as many bytes as its length says. -/
theorem length_encode (instruction : Instruction) :
    instruction.encode.length = instruction.length := instruction.length_eq.symm

end Z80Monitor.Instruction
