import Z80Monitor.Register.Basic

/-!
# Pairs, flags and other views of the registers

The same bits can be seen as registers, as register pairs and as single flags. A pair is its
upper register times 256 plus its lower one; a flag is one bit of `f`. Writing through a view
changes the bits it covers and no others.
-/

namespace Z80Monitor

/-- The pairs of byte registers. -/
inductive Pair where
  /-- Accumulator and flags. -/
  | af
  /-- B and C. -/
  | bc
  /-- D and E. -/
  | de
  /-- H and L. -/
  | hl
  deriving DecidableEq, Repr

namespace Pair

/-- The register with the upper byte of a pair. -/
def high : Pair → ByteRegister
  | .af => .a
  | .bc => .b
  | .de => .d
  | .hl => .h

/-- The register with the lower byte of a pair. -/
def low : Pair → ByteRegister
  | .af => .f
  | .bc => .c
  | .de => .e
  | .hl => .l

/-- The name of a pair, in lower case. -/
def name : Pair → String
  | .af => "af"
  | .bc => "bc"
  | .de => "de"
  | .hl => "hl"

/-- Every pair, in the order in which they are listed. -/
def all : List Pair := [.af, .bc, .de, .hl]

end Pair

/-- The flags: the bits of `f`, from the most significant down. -/
inductive Flag where
  /-- Sign. -/
  | s
  /-- Zero. -/
  | z
  /-- Bit 5, without a documented meaning. -/
  | y
  /-- Half carry. -/
  | h
  /-- Bit 3, without a documented meaning. -/
  | x
  /-- Parity or overflow. -/
  | pv
  /-- Subtraction. -/
  | n
  /-- Carry. -/
  | c
  deriving DecidableEq, Repr

namespace Flag

/-- The bit of a flag. -/
def mask : Flag → UInt8
  | .s => 0x80
  | .z => 0x40
  | .y => 0x20
  | .h => 0x10
  | .x => 0x08
  | .pv => 0x04
  | .n => 0x02
  | .c => 0x01

/-- The name of a flag, in upper case. -/
def name : Flag → String
  | .s => "S"
  | .z => "Z"
  | .y => "Y"
  | .h => "H"
  | .x => "X"
  | .pv => "PV"
  | .n => "N"
  | .c => "C"

/-- The name of a flag as a view of the registers. -/
def viewName : Flag → String
  | .s => "flag_s"
  | .z => "flag_z"
  | .y => "flag_y"
  | .h => "flag_h"
  | .x => "flag_x"
  | .pv => "flag_pv"
  | .n => "flag_n"
  | .c => "flag_c"

/-- Every flag, from the most significant bit down. -/
def all : List Flag := [.s, .z, .y, .h, .x, .pv, .n, .c]

end Flag

namespace Registers

/-- The contents of a pair. -/
def getPair (registers : Registers) (pair : Pair) : UInt16 :=
  littleEndian (registers.getByte pair.low) (registers.getByte pair.high)

/-- Write a number of any size to a pair, which keeps its sixteen lowest bits. -/
def setPair (registers : Registers) (pair : Pair) (value : Int) : Registers :=
  (registers.setByte pair.high (highByte (word value))).setByte pair.low (lowByte (word value))

/-- Whether a flag is set. -/
def getFlag (registers : Registers) (flag : Flag) : Bool := registers.f &&& flag.mask != 0

/-- Set a flag or clear it. -/
def setFlag (registers : Registers) (flag : Flag) (value : Bool) : Registers :=
  { registers with
    f := if value then registers.f ||| flag.mask else registers.f &&& ~~~flag.mask }

end Registers

/-- A way to look at some bits of the registers. -/
inductive View where
  /-- One register. -/
  | register (register : Register)
  /-- A pair of byte registers. -/
  | pair (pair : Pair)
  /-- A single flag. -/
  | flag (flag : Flag)
  deriving DecidableEq, Repr

namespace View

/-- The name of a view, in lower case. -/
def name : View → String
  | .register target => target.name
  | .pair target => target.name
  | .flag target => target.viewName

/-- Every view of the registers. -/
def all : List View :=
  Register.all.map .register ++ Pair.all.map .pair ++ Flag.all.map .flag

/-- The view with a name. -/
def ofName? (name : String) : Option View := View.all.find? fun view => view.name == name

/-- What a view shows. -/
def read (registers : Registers) : View → RegisterValue
  | .register target => registers.read target
  | .pair target => .number (registers.getPair target).toNat
  | .flag target => .truth (registers.getFlag target)

/-- Write a number of any size through a view. -/
def write (registers : Registers) (value : Int) : View → Registers
  | .register target => registers.write target value
  | .pair target => registers.setPair target value
  | .flag target => registers.setFlag target (value != 0)

end View

end Z80Monitor
