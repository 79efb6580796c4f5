import Z80Monitor.Register.View

/-!
# Flags of arithmetic and logic

How the flags follow from the operands and the result of an operation. Bits 3 and 5 of `f` are
never touched. Operands may be numbers of any size: sign, zero, overflow and parity look at their
lowest eight bits and the half carry at the lowest four, while the carry of an addition and the
overflow of a step by one look at the whole number.
-/

namespace Z80Monitor

/-- Whether a byte has an even number of one bits, found by folding the byte onto one bit. -/
def evenParity (value : UInt8) : Bool :=
  let nibble := value ^^^ (value >>> 4)
  let couple := nibble ^^^ (nibble >>> 2)
  let single := couple ^^^ (couple >>> 1)
  single &&& 1 == 0

namespace Registers

/-- Set sign and zero to describe a byte. -/
def setSignZero (registers : Registers) (result : UInt8) : Registers :=
  (registers.setFlag .s (result &&& 0x80 != 0)).setFlag .z (result == 0)

/-- The flags after an addition: overflow when two operands of one sign give a result of the
other, half carry out of the lowest four bits, and carry out of all eight. -/
def flagsAfterAdd (registers : Registers) (left right sum : Int) : Registers :=
  let result := byte sum
  let overflow := (byte left ^^^ result) &&& (byte right ^^^ result) &&& 0x80
  ((((registers.setSignZero result).setFlag .h (left % 16 + right % 16 > 15)).setFlag .pv
    (overflow != 0)).setFlag .n false).setFlag .c (sum > 255)

/-- The flags after a logical operation: parity in place of overflow, and no carry. -/
def flagsAfterLogic (registers : Registers) (value : Int) : Registers :=
  let result := byte value
  ((((registers.setSignZero result).setFlag .h false).setFlag .pv (evenParity result)).setFlag .n
    false).setFlag .c false

/-- The flags after adding one to `value`; the carry stays. -/
def flagsAfterIncrement (registers : Registers) (value result : Int) : Registers :=
  (((registers.setSignZero (byte result)).setFlag .h (value % 16 == 15)).setFlag .pv
    (value == 0x7F)).setFlag .n false

/-- The flags after taking one from `value`; the carry stays. -/
def flagsAfterDecrement (registers : Registers) (value result : Int) : Registers :=
  (((registers.setSignZero (byte result)).setFlag .h (value % 16 == 0)).setFlag .pv
    (value == 0x80)).setFlag .n true

end Registers

end Z80Monitor
