import Mathlib.Algebra.Group.Int.Defs
import Mathlib.Algebra.Group.Nat.Defs
import Z80Monitor.Proofs.Processor.Width
import Z80Monitor.Proofs.Register.Flags
import Z80Monitor.Proofs.Register.Writing

/-!
# Registers as bits

A register file is a row of bits, and register files with the same bits are equal. A view shows some
of these bits in places of its own, and a bit may be shown by several views: a bit of `f` by the
register, by the pair AF and by a flag. Writing a number through a view puts bits of the number into
the bits that the view covers and leaves all other bits as they are.
-/

namespace Z80Monitor

/-- A bit of the register file. -/
structure RegisterBit where
  /-- The register that has the bit. -/
  register : Register
  /-- The position in the register, counted from the least significant bit. -/
  index : Fin register.width

/-- The bit of a value in a place, counted from the least significant one. The bits of a negative
number are those of its two's complement, and a truth value is a single bit. -/
def RegisterValue.bit : RegisterValue → Nat → Bool
  | .number value, place => value / 2 ^ place % 2 = 1
  | .truth value, _ => value

/-- A bit of the register file. -/
def Registers.bit (registers : Registers) (bit : RegisterBit) : Bool :=
  (registers.read bit.register).bit bit.index

/-- The position of a flag in `f`. -/
def Flag.index (flag : Flag) : Fin 8 := ⟨flag.position, by cases flag <;> decide⟩

namespace View

/-- A view shows a bit of the register file in a place. -/
inductive Shows : View → RegisterBit → Nat → Prop where
  /-- A register shows its own bits. -/
  | register (target : Register) (index : Fin target.width) :
    Shows (.register target) ⟨target, index⟩ index
  /-- A pair shows its upper register in the upper eight places. -/
  | high (pair : Pair) (index : Fin 8) : Shows (.pair pair) ⟨.byte pair.high, index⟩ (index + 8)
  /-- A pair shows its lower register in the lower eight places. -/
  | low (pair : Pair) (index : Fin 8) : Shows (.pair pair) ⟨.byte pair.low, index⟩ index
  /-- A flag shows its bit of `f`. -/
  | flag (flag : Flag) : Shows (.flag flag) ⟨.byte .f, flag.index⟩ 0

/-- A view shows a bit in some place. -/
def Covers (view : View) (bit : RegisterBit) : Prop := ∃ place, view.Shows bit place

/-- Two views show no bit in common. -/
def Apart (first second : View) : Prop := ∀ bit, first.Covers bit → ¬second.Covers bit

/-- What a view shows behind a write of a number through it. -/
def held : View → Int → RegisterValue
  | .register target, value => target.held value
  | .pair _, value => .number (value % 65536)
  | .flag _, value => .truth (value != 0)

end View

/-! ## Bits of numbers -/

/-- The bits of a natural number are its binary digits. -/
theorem bit_natCast (value place : Nat) :
    (RegisterValue.number value).bit place = value.testBit place := by
  rw [Nat.testBit_eq_decide_div_mod_eq, RegisterValue.bit, decide_eq_decide]
  norm_cast

/-- Numbers with the same bits are equal, as far as the bits have room for them. -/
theorem eq_of_bit_eq {width left right : Nat} (leftFits : left < 2 ^ width)
    (rightFits : right < 2 ^ width)
    (same : ∀ index : Fin width,
      (RegisterValue.number left).bit index = (RegisterValue.number right).bit index) :
    left = right := by
  apply Nat.eq_of_testBit_eq
  intro place
  by_cases inside : place < width
  · have equal := same ⟨place, inside⟩
    rwa [bit_natCast, bit_natCast] at equal
  · have wide : 2 ^ width ≤ 2 ^ place := Nat.pow_le_pow_right (by decide) (by omega)
    rw [Nat.testBit_lt_two_pow (Nat.lt_of_lt_of_le leftFits wide),
      Nat.testBit_lt_two_pow (Nat.lt_of_lt_of_le rightFits wide)]

/-- A bit of the low byte of a word is the bit of the word in the same place. -/
theorem testBit_lowByte (value : UInt16) (index : Fin 8) :
    (lowByte value).toNat.testBit index = value.toNat.testBit index := by
  rw [lowByte, UInt8.toNat_ofNat', Nat.mod_mod, show 256 = 2 ^ 8 from rfl, Nat.testBit_mod_two_pow,
    decide_eq_true index.isLt, Bool.true_and]

/-- A bit of the high byte of a word is the bit of the word eight places further up. -/
theorem testBit_highByte (value : UInt16) (index : Fin 8) :
    (highByte value).toNat.testBit index = value.toNat.testBit (index + 8) := by
  have bound := value.toNat_lt
  rw [highByte, UInt8.toNat_ofNat', Nat.mod_eq_of_lt (by omega), show 256 = 2 ^ 8 from rfl,
    Nat.testBit_div_two_pow]

namespace Registers

variable (registers : Registers)

/-- A bit of a byte register. -/
theorem bit_byte (register : ByteRegister) (index : Fin 8) :
    registers.bit ⟨.byte register, index⟩ =
      (registers.getByte register).toNat.testBit index :=
  bit_natCast _ _

variable {registers} {other : Registers}

/-- A register shows the same where it has the same bits. -/
theorem read_eq_of_bit_eq {register : Register}
    (same : ∀ index, registers.bit ⟨register, index⟩ = other.bit ⟨register, index⟩) :
    registers.read register = other.read register := by
  cases register with
  | byte register =>
    have equal := eq_of_bit_eq (registers.getByte register).toNat_lt
      (other.getByte register).toNat_lt same
    rw [read, read, equal]
  | word register =>
    have equal := eq_of_bit_eq (registers.getWord register).toNat_lt
      (other.getWord register).toNat_lt same
    rw [read, read, equal]
  | flipFlop register => exact congrArg RegisterValue.truth (same ⟨0, Nat.one_pos⟩)

/-- Byte registers that show the same hold the same byte. -/
theorem getByte_eq_of_read_eq {register : ByteRegister}
    (same : registers.read (.byte register) = other.read (.byte register)) :
    registers.getByte register = other.getByte register := by
  rw [read, read, RegisterValue.number.injEq, Int.natCast_inj, UInt8.toNat_inj] at same
  exact same

/-- Word registers that show the same hold the same word. -/
theorem getWord_eq_of_read_eq {register : WordRegister}
    (same : registers.read (.word register) = other.read (.word register)) :
    registers.getWord register = other.getWord register := by
  rw [read, read, RegisterValue.number.injEq, Int.natCast_inj, UInt16.toNat_inj] at same
  exact same

/-- Register files in which every register shows the same are equal. -/
theorem ext_read (same : ∀ register, registers.read register = other.read register) :
    registers = other := by
  have bytes (register : ByteRegister) := getByte_eq_of_read_eq (same (.byte register))
  have words (register : WordRegister) := getWord_eq_of_read_eq (same (.word register))
  have flipFlops (register : FlipFlop) : registers.getFlipFlop register =
      other.getFlipFlop register := RegisterValue.truth.inj (same (.flipFlop register))
  cases registers
  cases other
  rw [mk.injEq]
  exact ⟨bytes .a, bytes .f, bytes .b, bytes .c, bytes .d, bytes .e, bytes .h, bytes .l,
    words .pc, words .sp, words .ix, words .iy, bytes .i, bytes .r, flipFlops .iff1,
    flipFlops .iff2, bytes .im⟩

/-- Register files with the same bits are equal. -/
theorem ext_bit (same : ∀ bit, registers.bit bit = other.bit bit) : registers = other :=
  ext_read fun register => read_eq_of_bit_eq fun index => same ⟨register, index⟩

end Registers

end Z80Monitor
