import Z80Monitor.Register.Named

/-!
# Operands of eight bits

Three bits of an opcode name an operand: one of seven registers, or the byte at the address in
HL. No register holds the latter, so it can be neither read nor written as a register.
-/

namespace Z80Monitor

/-- What three bits of an opcode name, in the order of the codes. -/
inductive Operand where
  /-- Register B. -/
  | b
  /-- Register C. -/
  | c
  /-- Register D. -/
  | d
  /-- Register E. -/
  | e
  /-- Register H. -/
  | h
  /-- Register L. -/
  | l
  /-- The byte at the address in HL. -/
  | atHL
  /-- Register A. -/
  | a
  deriving DecidableEq, Repr

/-- Why an operand cannot be used. -/
inductive OperandFault where
  /-- A byte of the operand is missing behind the opcode. -/
  | missing
  /-- The operand cannot be read as a register. -/
  | unreadable (operand : Operand)
  /-- The operand cannot be written as a register. -/
  | unwritable (operand : Operand)
  deriving DecidableEq, Repr

namespace Operand

/-- The operand that the lowest three bits of a number name. -/
def ofBits (bits : Int) : Operand :=
  match (bits % 8).toNat with
  | 0 => .b
  | 1 => .c
  | 2 => .d
  | 3 => .e
  | 4 => .h
  | 5 => .l
  | 6 => .atHL
  | _ => .a

/-- The operand with a code from 0 to 7. -/
def ofCode? (code : Int) : Option Operand :=
  if 0 ≤ code ∧ code < 8 then some (ofBits code) else none

/-- The code of an operand. -/
def code : Operand → Nat
  | .b => 0
  | .c => 1
  | .d => 2
  | .e => 3
  | .h => 4
  | .l => 5
  | .atHL => 6
  | .a => 7

/-- The name of an operand in assembly text. -/
def name : Operand → String
  | .b => "B"
  | .c => "C"
  | .d => "D"
  | .e => "E"
  | .h => "H"
  | .l => "L"
  | .atHL => "(HL)"
  | .a => "A"

/-- The name of the operand with a code, or a stand-in for a number that is no code. -/
def nameOfCode (code : Int) : String :=
  match ofCode? code with
  | some operand => operand.name
  | none => "UNKNOWN_REG"

/-- The register that an operand names. -/
def register? : Operand → Option ByteRegister
  | .b => some .b
  | .c => some .c
  | .d => some .d
  | .e => some .e
  | .h => some .h
  | .l => some .l
  | .atHL => none
  | .a => some .a

/-- The byte that an operand holds. -/
def read (operand : Operand) (registers : Registers) : Except OperandFault UInt8 :=
  match operand.register? with
  | some register => .ok (registers.getByte register)
  | none => .error (.unreadable operand)

/-- Store a value in an operand. -/
def write (operand : Operand) (registers : Registers) (value : Int) :
    Except OperandFault Registers :=
  match operand.register? with
  | some register => .ok (registers.setByte register (byte value))
  | none => .error (.unwritable operand)

/-- The operand with a code is the one that has this code. -/
@[simp] theorem ofBits_code (operand : Operand) : ofBits operand.code = operand := by
  cases operand <;> rfl

end Operand

/-- The refusal of a write, where the fault is one. -/
def OperandFault.refusal? : OperandFault → Option RegisterError
  | .missing => none
  | .unreadable _ => none
  | .unwritable operand => some (.notByte (Text.lowerString operand.name))

end Z80Monitor
