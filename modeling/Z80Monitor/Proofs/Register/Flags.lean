import Z80Monitor.Register.Arithmetic

/-!
# Flags as bits

A flag is the bit of `f` at its position. Setting a flag changes that bit and no other, a byte is
determined by its eight flags, and `flagByte` is the byte with given flags as a plain sum. So a
chain of flag writes is known as soon as each flag behind it is known.
-/

namespace Z80Monitor

namespace Flag

/-- The position of a flag's bit, counted from the least significant one. -/
def position : Flag → Nat
  | .s => 7
  | .z => 6
  | .y => 5
  | .h => 4
  | .x => 3
  | .pv => 2
  | .n => 1
  | .c => 0

/-- Every position in a byte is that of a flag. -/
theorem exists_position_eq (index : Nat) (inside : index < 8) :
    ∃ flag : Flag, flag.position = index := by
  match index, inside with
  | 0, _ => exact ⟨.c, rfl⟩
  | 1, _ => exact ⟨.n, rfl⟩
  | 2, _ => exact ⟨.pv, rfl⟩
  | 3, _ => exact ⟨.x, rfl⟩
  | 4, _ => exact ⟨.h, rfl⟩
  | 5, _ => exact ⟨.y, rfl⟩
  | 6, _ => exact ⟨.z, rfl⟩
  | 7, _ => exact ⟨.s, rfl⟩

/-- The mask of a flag has the flag's bit only. -/
theorem testBit_mask (flag other : Flag) :
    flag.mask.toNat.testBit other.position = decide (other = flag) := by
  cases flag <;> cases other <;> decide

/-- The mask turned round has every bit but the flag's. -/
theorem testBit_not_mask (flag other : Flag) :
    (~~~flag.mask).toNat.testBit other.position = !decide (other = flag) := by
  cases flag <;> cases other <;> decide

end Flag

/-- Bytes that agree at the position of every flag are equal. -/
theorem eq_of_testBit_position_eq {left right : UInt8}
    (same : ∀ flag : Flag,
      left.toNat.testBit flag.position = right.toNat.testBit flag.position) : left = right := by
  apply UInt8.toNat_inj.mp
  apply Nat.eq_of_testBit_eq
  intro index
  by_cases inside : index < 8
  · obtain ⟨flag, rfl⟩ := Flag.exists_position_eq index inside
    exact same flag
  · have small (value : UInt8) : value.toNat.testBit index = false := by
      apply Nat.testBit_lt_two_pow
      exact Nat.lt_of_lt_of_le value.toNat_lt (Nat.pow_le_pow_right (by decide) (by omega))
    rw [small, small]

/-- Masking a byte with a flag looks at the bit of the flag. -/
theorem and_mask_bne_zero (value : UInt8) (flag : Flag) :
    (value &&& flag.mask != 0) = value.toNat.testBit flag.position := by
  cases bit : value.toNat.testBit flag.position with
  | false =>
    have zero : value &&& flag.mask = 0 := by
      apply eq_of_testBit_position_eq
      intro other
      rw [UInt8.toNat_and, Nat.testBit_and, flag.testBit_mask other]
      by_cases same : other = flag
      · rw [same, bit]
        simp
      · simp [same]
    rw [zero]
    rfl
  | true =>
    rw [bne_iff_ne]
    intro zero
    have cleared := congrArg (fun byte : UInt8 => byte.toNat.testBit flag.position) zero
    simp only [UInt8.toNat_and, Nat.testBit_and, flag.testBit_mask flag, bit] at cleared
    simp at cleared

/-- The most significant bit of a byte says whether the byte is 128 or more. -/
theorem testBit_sign (value : UInt8) :
    value.toNat.testBit Flag.s.position = decide (128 ≤ value.toNat) := by
  have bound := value.toNat_lt
  rw [Nat.testBit_eq_decide_div_mod_eq, decide_eq_decide]
  change value.toNat / 128 % 2 = 1 ↔ _
  omega

namespace Registers

/-- A flag is a bit of `f`. -/
theorem getFlag_eq_testBit (registers : Registers) (flag : Flag) :
    registers.getFlag flag = registers.f.toNat.testBit flag.position :=
  and_mask_bne_zero registers.f flag

/-- Setting a flag changes that flag and no other. -/
theorem getFlag_setFlag (registers : Registers) (flag other : Flag) (value : Bool) :
    (registers.setFlag flag value).getFlag other =
      if other = flag then value else registers.getFlag other := by
  rw [getFlag_eq_testBit, getFlag_eq_testBit]
  unfold setFlag
  cases value with
  | true =>
    simp only [↓reduceIte, UInt8.toNat_or, Nat.testBit_or, flag.testBit_mask other]
    by_cases same : other = flag <;> simp [same]
  | false =>
    simp only [Bool.false_eq_true, ↓reduceIte, UInt8.toNat_and, Nat.testBit_and,
      flag.testBit_not_mask other]
    by_cases same : other = flag <;> simp [same]

end Registers

/-- The byte with given flags. -/
def flagByte (flags : Flag → Bool) : UInt8 :=
  UInt8.ofNat (128 * (flags .s).toNat + 64 * (flags .z).toNat + 32 * (flags .y).toNat +
    16 * (flags .h).toNat + 8 * (flags .x).toNat + 4 * (flags .pv).toNat +
    2 * (flags .n).toNat + (flags .c).toNat)

/-- Each bit of the byte with given flags is the flag at its position. -/
theorem testBit_flagByte (flags : Flag → Bool) (flag : Flag) :
    (flagByte flags).toNat.testBit flag.position = flags flag := by
  have s := (flags .s).toNat_lt
  have z := (flags .z).toNat_lt
  have y := (flags .y).toNat_lt
  have h := (flags .h).toNat_lt
  have x := (flags .x).toNat_lt
  have pv := (flags .pv).toNat_lt
  have n := (flags .n).toNat_lt
  have c := (flags .c).toNat_lt
  have asNumber (value : Bool) : value = decide (value.toNat = 1) := by cases value <;> rfl
  rw [asNumber (flags flag), Nat.testBit_eq_decide_div_mod_eq, decide_eq_decide]
  simp only [flagByte, UInt8.toNat_ofNat']
  cases flag <;> simp only [Flag.position] <;> omega

/-- Registers that differ from others in `f` alone are known from their flags. -/
theorem Registers.eq_with_flagByte {registers after : Registers} {flags : Flag → Bool}
    (rest : after = { registers with f := after.f })
    (same : ∀ flag, after.getFlag flag = flags flag) :
    after = { registers with f := flagByte flags } := by
  rw [rest]
  congr 1
  apply eq_of_testBit_position_eq
  intro flag
  rw [testBit_flagByte, ← getFlag_eq_testBit, same]

end Z80Monitor
