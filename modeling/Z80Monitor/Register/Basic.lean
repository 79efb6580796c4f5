import Z80Monitor.Word

/-!
# The register file

The seventeen registers of the processor with their names, and reading and writing them. A
register holds as many bits as its kind says, so writing keeps the residue of a number of any
size, and a flip-flop keeps whether the number differs from zero.
-/

namespace Z80Monitor

/-- The registers of eight bits. -/
inductive ByteRegister where
  /-- Accumulator. -/
  | a
  /-- Flags. -/
  | f
  /-- Upper half of BC. -/
  | b
  /-- Lower half of BC. -/
  | c
  /-- Upper half of DE. -/
  | d
  /-- Lower half of DE. -/
  | e
  /-- Upper half of HL. -/
  | h
  /-- Lower half of HL. -/
  | l
  /-- Interrupt vector. -/
  | i
  /-- Memory refresh. -/
  | r
  /-- Interrupt mode. -/
  | im
  deriving DecidableEq, Repr

/-- The registers of sixteen bits. -/
inductive WordRegister where
  /-- Program counter. -/
  | pc
  /-- Stack pointer. -/
  | sp
  /-- First index register. -/
  | ix
  /-- Second index register. -/
  | iy
  deriving DecidableEq, Repr

/-- The interrupt flip-flops. -/
inductive FlipFlop where
  /-- Whether interrupts are admitted. -/
  | iff1
  /-- The saved state of the first flip-flop. -/
  | iff2
  deriving DecidableEq, Repr

/-- A register of any kind. -/
inductive Register where
  /-- A register of eight bits. -/
  | byte (register : ByteRegister)
  /-- A register of sixteen bits. -/
  | word (register : WordRegister)
  /-- An interrupt flip-flop. -/
  | flipFlop (register : FlipFlop)
  deriving DecidableEq, Repr

/-- The name of a register of eight bits. -/
def ByteRegister.name : ByteRegister → String
  | .a => "a"
  | .f => "f"
  | .b => "b"
  | .c => "c"
  | .d => "d"
  | .e => "e"
  | .h => "h"
  | .l => "l"
  | .i => "i"
  | .r => "r"
  | .im => "im"

/-- The name of a register of sixteen bits. -/
def WordRegister.name : WordRegister → String
  | .pc => "pc"
  | .sp => "sp"
  | .ix => "ix"
  | .iy => "iy"

/-- The name of an interrupt flip-flop. -/
def FlipFlop.name : FlipFlop → String
  | .iff1 => "iff1"
  | .iff2 => "iff2"

/-- The name of a register, in lower case. -/
def Register.name : Register → String
  | .byte register => register.name
  | .word register => register.name
  | .flipFlop register => register.name

/-- Every register, in the order in which they are listed. -/
def Register.all : List Register :=
  [.byte .a, .byte .f, .byte .b, .byte .c, .byte .d, .byte .e, .byte .h, .byte .l,
    .word .pc, .word .sp, .word .ix, .word .iy, .byte .i, .byte .r,
    .flipFlop .iff1, .flipFlop .iff2, .byte .im]

/-- The register with a name. -/
def Register.ofName? (name : String) : Option Register :=
  Register.all.find? fun register => register.name == name

/-- A value written to a register or read from one. -/
inductive RegisterValue where
  /-- A number of any size. -/
  | number (value : Int)
  /-- A truth value. -/
  | truth (value : Bool)
  deriving DecidableEq, Repr

/-- A value as a number; truth counts as one. -/
def RegisterValue.toInt : RegisterValue → Int
  | .number value => value
  | .truth value => if value then 1 else 0

/-- The contents of all registers. The defaults are the contents at power-on. -/
structure Registers where
  /-- Accumulator. -/
  a : UInt8 := 0
  /-- Flags. -/
  f : UInt8 := 0
  /-- Upper half of BC. -/
  b : UInt8 := 0
  /-- Lower half of BC. -/
  c : UInt8 := 0
  /-- Upper half of DE. -/
  d : UInt8 := 0
  /-- Lower half of DE. -/
  e : UInt8 := 0
  /-- Upper half of HL. -/
  h : UInt8 := 0
  /-- Lower half of HL. -/
  l : UInt8 := 0
  /-- Program counter. -/
  pc : UInt16 := 0
  /-- Stack pointer. -/
  sp : UInt16 := 0xFFFF
  /-- First index register. -/
  ix : UInt16 := 0
  /-- Second index register. -/
  iy : UInt16 := 0
  /-- Interrupt vector. -/
  i : UInt8 := 0
  /-- Memory refresh. -/
  r : UInt8 := 0
  /-- Whether interrupts are admitted. -/
  iff1 : Bool := false
  /-- The saved state of the first flip-flop. -/
  iff2 : Bool := false
  /-- Interrupt mode. -/
  im : UInt8 := 0
  deriving DecidableEq, Repr

namespace Registers

/-- The contents of a register of eight bits. -/
def getByte (registers : Registers) : ByteRegister → UInt8
  | .a => registers.a
  | .f => registers.f
  | .b => registers.b
  | .c => registers.c
  | .d => registers.d
  | .e => registers.e
  | .h => registers.h
  | .l => registers.l
  | .i => registers.i
  | .r => registers.r
  | .im => registers.im

/-- Replace the contents of a register of eight bits. -/
def setByte (registers : Registers) (register : ByteRegister) (value : UInt8) : Registers :=
  match register with
  | .a => { registers with a := value }
  | .f => { registers with f := value }
  | .b => { registers with b := value }
  | .c => { registers with c := value }
  | .d => { registers with d := value }
  | .e => { registers with e := value }
  | .h => { registers with h := value }
  | .l => { registers with l := value }
  | .i => { registers with i := value }
  | .r => { registers with r := value }
  | .im => { registers with im := value }

/-- The contents of a register of sixteen bits. -/
def getWord (registers : Registers) : WordRegister → UInt16
  | .pc => registers.pc
  | .sp => registers.sp
  | .ix => registers.ix
  | .iy => registers.iy

/-- Replace the contents of a register of sixteen bits. -/
def setWord (registers : Registers) (register : WordRegister) (value : UInt16) : Registers :=
  match register with
  | .pc => { registers with pc := value }
  | .sp => { registers with sp := value }
  | .ix => { registers with ix := value }
  | .iy => { registers with iy := value }

/-- The state of a flip-flop. -/
def getFlipFlop (registers : Registers) : FlipFlop → Bool
  | .iff1 => registers.iff1
  | .iff2 => registers.iff2

/-- Replace the state of a flip-flop. -/
def setFlipFlop (registers : Registers) (register : FlipFlop) (value : Bool) : Registers :=
  match register with
  | .iff1 => { registers with iff1 := value }
  | .iff2 => { registers with iff2 := value }

/-- The contents of a register. -/
def read (registers : Registers) : Register → RegisterValue
  | .byte register => .number (registers.getByte register).toNat
  | .word register => .number (registers.getWord register).toNat
  | .flipFlop register => .truth (registers.getFlipFlop register)

/-- Write a number of any size to a register, which keeps the bits it has room for. -/
def write (registers : Registers) (register : Register) (value : Int) : Registers :=
  match register with
  | .byte register => registers.setByte register (byte value)
  | .word register => registers.setWord register (word value)
  | .flipFlop register => registers.setFlipFlop register (value != 0)

/-- Reading the byte register just written gives the value written. -/
@[simp] theorem getByte_setByte_self (registers : Registers) (register : ByteRegister)
    (value : UInt8) : (registers.setByte register value).getByte register = value := by
  cases register <;> rfl

/-- Writing a byte register leaves the other byte registers as they are. -/
theorem getByte_setByte_of_ne (registers : Registers) {register other : ByteRegister}
    (differ : other ≠ register) (value : UInt8) :
    (registers.setByte register value).getByte other = registers.getByte other := by
  cases register <;> cases other <;> first | rfl | exact absurd rfl differ

/-- Reading the word register just written gives the value written. -/
@[simp] theorem getWord_setWord_self (registers : Registers) (register : WordRegister)
    (value : UInt16) : (registers.setWord register value).getWord register = value := by
  cases register <;> rfl

/-- Writing a word register leaves the other word registers as they are. -/
theorem getWord_setWord_of_ne (registers : Registers) {register other : WordRegister}
    (differ : other ≠ register) (value : UInt16) :
    (registers.setWord register value).getWord other = registers.getWord other := by
  cases register <;> cases other <;> first | rfl | exact absurd rfl differ

end Registers

end Z80Monitor
