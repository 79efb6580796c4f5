import Z80Monitor.Text.Hexadecimal
import Z80Monitor.Word

/-!
# Descriptions of decoded instructions

What a trace or a listing shows of an instruction: its opcode, its spelling, the bytes of its
operands, its length and its cost.
-/

namespace Z80Monitor

/-- The description of a decoded instruction. -/
structure Operation where
  /-- The opcode, which may be any number where the description was made by hand. -/
  opcode : Int
  /-- The mnemonic. -/
  mnemonic : String
  /-- The operands as they are spelled. -/
  operands : List String := []
  /-- The bytes behind the opcode. -/
  operandBytes : List UInt8 := []
  /-- The clock cycles that the instruction takes. -/
  cycles : Nat := 0
  /-- The bytes that the instruction takes, opcode included. -/
  length : Nat := 1
  deriving DecidableEq, Repr

namespace Operation

/-- The opcode in base 16, at least two digits. -/
def opcodeHex (operation : Operation) : String := String.ofList (Text.hex 2 operation.opcode)

/-- The assembly text: the mnemonic, and the operands with commas between them. -/
def text (operation : Operation) : String :=
  if operation.operands.isEmpty then operation.mnemonic
  else operation.mnemonic ++ " " ++ ",".intercalate operation.operands

/-- The opcode and the operand bytes in base 16 with spaces between them. -/
def bytesText (operation : Operation) : List Char :=
  [' '].intercalate (Text.hex 2 operation.opcode :: operation.operandBytes.map Text.hexByte)

/-- The description of an opcode that stands for no instruction: one byte that costs four
cycles. -/
def unknown (opcode : Int) : Operation where
  opcode := opcode
  mnemonic := "UNKNOWN"
  operands := [String.ofList ('$' :: Text.hex 2 opcode)]
  cycles := 4

end Operation

end Z80Monitor
