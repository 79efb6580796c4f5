import Z80Monitor.Processor.Execution
import Z80Monitor.Proofs.Register.Flags

/-!
# Arithmetic of the registers

What adding, exclusive or, and steps by one mean for the registers, in plain arithmetic of the
values that the registers hold: the result as a residue, and each flag by the condition that it
stands for. The statements here say that carrying out an instruction means this.
-/

namespace Z80Monitor

/-- The number of one bits of a byte. -/
def onesOf (value : UInt8) : Nat := (List.range 8).countP value.toNat.testBit

namespace Registers

/-- The registers after one is added to a register. -/
def incremented (registers : Registers) (target : ByteRegister) : Registers :=
  let value := (registers.getByte target).toNat
  let result := (value + 1) % 256
  { registers.setByte target (UInt8.ofNat result) with
    f := flagByte fun
      | .s => decide (128 ≤ result)
      | .z => decide (result = 0)
      | .h => decide (value % 16 = 15)
      | .pv => decide (value = 127)
      | .n => false
      | kept => registers.getFlag kept }

/-- The registers after one is taken from a register. -/
def decremented (registers : Registers) (target : ByteRegister) : Registers :=
  let value := (registers.getByte target).toNat
  let result := (value + 255) % 256
  { registers.setByte target (UInt8.ofNat result) with
    f := flagByte fun
      | .s => decide (128 ≤ result)
      | .z => decide (result = 0)
      | .h => decide (value % 16 = 0)
      | .pv => decide (value = 128)
      | .n => true
      | kept => registers.getFlag kept }

/-- The registers after a register is added to A. There is overflow where both operands have the
same sign and the result has the other one. -/
def added (registers : Registers) (source : ByteRegister) : Registers :=
  let left := registers.a.toNat
  let right := (registers.getByte source).toNat
  let result := (left + right) % 256
  { registers.setByte .a (UInt8.ofNat result) with
    f := flagByte fun
      | .s => decide (128 ≤ result)
      | .z => decide (result = 0)
      | .h => decide (15 < left % 16 + right % 16)
      | .pv => decide ((128 ≤ left ↔ 128 ≤ right) ∧ ¬(128 ≤ left ↔ 128 ≤ result))
      | .n => false
      | .c => decide (255 < left + right)
      | kept => registers.getFlag kept }

/-- The registers after the exclusive or of A with a register. -/
def xored (registers : Registers) (source : ByteRegister) : Registers :=
  let result := registers.a ^^^ registers.getByte source
  { registers.setByte .a result with
    f := flagByte fun
      | .s => decide (128 ≤ result.toNat)
      | .z => decide (result.toNat = 0)
      | .h => false
      | .pv => decide (onesOf result % 2 = 0)
      | .n => false
      | .c => false
      | kept => registers.getFlag kept }

/-- Sign and zero describe the byte that they are set for; the other flags stay. -/
theorem getFlag_setSignZero (registers : Registers) (result : UInt8) (flag : Flag) :
    (registers.setSignZero result).getFlag flag =
      match flag with
      | .s => decide (128 ≤ result.toNat)
      | .z => decide (result.toNat = 0)
      | kept => registers.getFlag kept := by
  have zero : (result == 0) = decide (result.toNat = 0) := by
    rw [Bool.eq_iff_iff, beq_iff_eq, decide_eq_true_iff, ← UInt8.toNat_inj]
    rfl
  have sign : (result &&& 0x80 != 0) = decide (128 ≤ result.toNat) :=
    (and_mask_bne_zero result .s).trans (testBit_sign result)
  unfold setSignZero
  rw [getFlag_setFlag, getFlag_setFlag, sign, zero]
  cases flag <;> simp

/-- Writing a register other than `f` leaves the flags. -/
theorem f_setByte (registers : Registers) {target : ByteRegister} (other : target ≠ .f)
    (value : UInt8) : (registers.setByte target value).f = registers.f :=
  registers.getByte_setByte_of_ne (Ne.symm other) value

end Registers

/-- A natural number stands for the byte with its remainder. -/
theorem byte_natCast (value : Nat) : byte value = UInt8.ofNat (value % 256) := by
  unfold byte
  congr 1

/-- One less than a byte is its remainder as well. -/
theorem byte_natCast_sub_one (value : Nat) :
    byte ((value : Int) - 1) = UInt8.ofNat ((value + 255) % 256) := by
  rw [← byte_natCast, byte_eq_byte_iff]
  omega

/-- Bits that both operands have unlike the result are there where the operands agree and the
result does not. -/
theorem overflow_eq (left right result : UInt8) :
    ((left ^^^ result) &&& (right ^^^ result) &&& 0x80 != 0) =
      decide ((128 ≤ left.toNat ↔ 128 ≤ right.toNat) ∧
        ¬(128 ≤ left.toNat ↔ 128 ≤ result.toNat)) := by
  have masked := and_mask_bne_zero ((left ^^^ result) &&& (right ^^^ result)) .s
  rw [UInt8.toNat_and, Nat.testBit_and, UInt8.toNat_xor, Nat.testBit_xor, UInt8.toNat_xor,
    Nat.testBit_xor, testBit_sign, testBit_sign, testBit_sign] at masked
  refine masked.trans ?_
  by_cases l : 128 ≤ left.toNat <;> by_cases r : 128 ≤ right.toNat <;>
    by_cases s : 128 ≤ result.toNat <;> simp [l, r, s]

/-- The parity of a byte says whether its one bits are even in number. -/
theorem evenParity_eq (value : UInt8) : evenParity value = decide (onesOf value % 2 = 0) := by
  have all : ∀ number : Fin 256,
      evenParity (UInt8.ofNat number) = decide (onesOf (UInt8.ofNat number) % 2 = 0) := by
    decide +kernel
  have own := all ⟨value.toNat, value.toNat_lt⟩
  simpa using own

namespace Registers

/-- Flags do not depend on what other registers than `f` hold. -/
theorem getFlag_setByte (registers : Registers) {target : ByteRegister} (other : target ≠ .f)
    (value : UInt8) (flag : Flag) :
    (registers.setByte target value).getFlag flag = registers.getFlag flag := by
  unfold getFlag
  rw [registers.f_setByte other]

/-- Adding one to a register and setting the flags for it. -/
theorem flagsAfterIncrement_setByte (registers : Registers) {target : ByteRegister}
    (other : target ≠ .f) :
    let value : Int := (registers.getByte target).toNat
    (registers.setByte target (byte (value + 1))).flagsAfterIncrement value (value + 1) =
      registers.incremented target := by
  intro value
  have stored : byte (value + 1) =
      UInt8.ofNat (((registers.getByte target).toNat + 1) % 256) := byte_natCast _
  rw [stored]
  apply eq_with_flagByte rfl
  intro flag
  unfold flagsAfterIncrement
  rw [stored]
  simp only [getFlag_setFlag, getFlag_setSignZero, registers.getFlag_setByte other]
  cases flag with
  | h =>
    have half : (value % 16 == 15) = decide ((registers.getByte target).toNat % 16 = 15) := by
      rw [Bool.eq_iff_iff, beq_iff_eq, decide_eq_true_iff]
      omega
    simp [half]
  | pv =>
    have limit : (value == 0x7F) = decide ((registers.getByte target).toNat = 127) := by
      rw [Bool.eq_iff_iff, beq_iff_eq, decide_eq_true_iff]
      omega
    simp [limit]
  | _ => simp

/-- Taking one from a register and setting the flags for it. -/
theorem flagsAfterDecrement_setByte (registers : Registers) {target : ByteRegister}
    (other : target ≠ .f) :
    let value : Int := (registers.getByte target).toNat
    (registers.setByte target (byte (value - 1))).flagsAfterDecrement value (value - 1) =
      registers.decremented target := by
  intro value
  have stored : byte (value - 1) =
      UInt8.ofNat (((registers.getByte target).toNat + 255) % 256) := byte_natCast_sub_one _
  rw [stored]
  apply eq_with_flagByte rfl
  intro flag
  unfold flagsAfterDecrement
  rw [stored]
  simp only [getFlag_setFlag, getFlag_setSignZero, registers.getFlag_setByte other]
  cases flag with
  | h =>
    have half : (value % 16 == 0) = decide ((registers.getByte target).toNat % 16 = 0) := by
      rw [Bool.eq_iff_iff, beq_iff_eq, decide_eq_true_iff]
      omega
    simp [half]
  | pv =>
    have limit : (value == 0x80) = decide ((registers.getByte target).toNat = 128) := by
      rw [Bool.eq_iff_iff, beq_iff_eq, decide_eq_true_iff]
      omega
    simp [limit]
  | _ => simp

/-- Adding a register to A and setting the flags for it. -/
theorem flagsAfterAdd_setByte (registers : Registers) (source : ByteRegister) :
    let left : Int := registers.a.toNat
    let right : Int := (registers.getByte source).toNat
    (registers.setByte .a (byte (left + right))).flagsAfterAdd left right (left + right) =
      registers.added source := by
  intro left right
  have stored : byte (left + right) =
      UInt8.ofNat ((registers.a.toNat + (registers.getByte source).toNat) % 256) := byte_natCast _
  rw [stored]
  apply eq_with_flagByte rfl
  intro flag
  unfold flagsAfterAdd
  rw [stored, show byte left = registers.a from byte_toNat _,
    show byte right = registers.getByte source from byte_toNat _]
  simp only [getFlag_setFlag, getFlag_setSignZero,
    registers.getFlag_setByte (show ByteRegister.a ≠ .f by decide), overflow_eq]
  cases flag with
  | h =>
    have half : decide (left % 16 + right % 16 > 15) =
        decide (15 < registers.a.toNat % 16 + (registers.getByte source).toNat % 16) := by
      rw [decide_eq_decide]
      omega
    simp [half]
  | c =>
    have carry : decide (left + right > 255) =
        decide (255 < registers.a.toNat + (registers.getByte source).toNat) := by
      rw [decide_eq_decide]
      omega
    simp [carry]
  | _ => simp

/-- Combining A with a register and setting the flags for it. -/
theorem flagsAfterLogic_setByte (registers : Registers) (source : ByteRegister) :
    let result := registers.a ^^^ registers.getByte source
    (registers.setByte .a result).flagsAfterLogic result.toNat = registers.xored source := by
  intro result
  apply eq_with_flagByte rfl
  intro flag
  unfold flagsAfterLogic
  rw [byte_toNat]
  simp only [getFlag_setFlag, getFlag_setSignZero, evenParity_eq,
    registers.getFlag_setByte (show ByteRegister.a ≠ .f by decide)]
  cases flag <;> rfl

end Registers

end Z80Monitor
