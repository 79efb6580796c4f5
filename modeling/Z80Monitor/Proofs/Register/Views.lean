import Z80Monitor.Proofs.Register.Bits

/-!
# Views as lenses

What a view shows has the bits of the register file in their places. A view shows what was just
written through it, writing back what it shows changes nothing, and of two writes the second counts.
Writing changes the bits that the view covers and no others, so that writes through views with no
bit in common may be made in either order, however registers, pairs and flags are mixed.
-/

namespace Z80Monitor

namespace View

variable (registers : Registers)

/-- A pair shows what its two registers show. -/
theorem read_pair (pair : Pair) :
    (View.pair pair).read registers =
      .number (256 * (registers.getByte pair.high).toNat + (registers.getByte pair.low).toNat) := by
  rw [View.read, Registers.getPair, toNat_littleEndian, Int.natCast_add, Int.natCast_mul]
  rfl

/-- A flag shows its bit of `f`. -/
theorem read_flag (flag : Flag) :
    (View.flag flag).read registers = .truth (registers.bit ⟨.byte .f, flag.index⟩) := by
  rw [View.read, Registers.getFlag_eq_testBit, Registers.bit_byte]
  rfl

/-- What a view shows has the bits of the register file in their places. -/
theorem bit_read {view : View} {bit : RegisterBit} {place : Nat} (shown : view.Shows bit place) :
    (view.read registers).bit place = registers.bit bit := by
  cases shown with
  | register target index => rfl
  | high pair index =>
    have half : registers.getByte pair.high = highByte (registers.getPair pair) :=
      (highByte_littleEndian _ _).symm
    rw [View.read, bit_natCast, Registers.bit_byte, half, testBit_highByte]
  | low pair index =>
    have half : registers.getByte pair.low = lowByte (registers.getPair pair) :=
      (lowByte_littleEndian _ _).symm
    rw [View.read, bit_natCast, Registers.bit_byte, half, testBit_lowByte]
  | flag flag =>
    rw [read_flag]
    rfl

/-- A view shows the same where the bits that it covers are the same. -/
theorem read_congr {view : View} {left right : Registers}
    (same : ∀ bit, view.Covers bit → left.bit bit = right.bit bit) :
    view.read left = view.read right := by
  cases view with
  | register target =>
    exact Registers.read_eq_of_bit_eq fun index => same _ ⟨_, .register target index⟩
  | pair pair =>
    have high := Registers.getByte_eq_of_read_eq
      (Registers.read_eq_of_bit_eq fun index => same _ ⟨_, .high pair index⟩)
    have low := Registers.getByte_eq_of_read_eq
      (Registers.read_eq_of_bit_eq fun index => same _ ⟨_, .low pair index⟩)
    rw [read_pair, read_pair, high, low]
  | flag flag => rw [read_flag, read_flag, same _ ⟨_, .flag flag⟩]

/-- A view shows the number that was just written through it, as far as it has room for it. -/
theorem read_write_self (view : View) (value : Int) :
    view.read (view.write registers value) = view.held value := by
  cases view with
  | register target => exact registers.read_write_self target value
  | pair pair =>
    have apart : pair.high ≠ pair.low := by cases pair <;> decide
    rw [View.write, View.read, Registers.getPair, Registers.setPair,
      Registers.getByte_setByte_self, Registers.getByte_setByte_of_ne _ apart,
      Registers.getByte_setByte_self, littleEndian_lowByte_highByte, toNat_word, held]
  | flag flag => rw [View.write, View.read, Registers.getFlag_setFlag, if_pos rfl, held]

/-- A number written to a pair is split into two bytes. -/
theorem read_halves (pair : Pair) (value : Int) :
    ((View.pair pair).write registers value).read (.byte pair.high) = .number (value / 256 % 256) ∧
    ((View.pair pair).write registers value).read (.byte pair.low) = .number (value % 256) := by
  have apart : pair.high ≠ pair.low := by cases pair <;> decide
  have bound := (word value).toNat_lt
  have whole := toNat_word value
  constructor
  · rw [View.write, Registers.setPair, Registers.read, Registers.getByte_setByte_of_ne _ apart,
      Registers.getByte_setByte_self, highByte, UInt8.toNat_ofNat', RegisterValue.number.injEq]
    omega
  · rw [View.write, Registers.setPair, Registers.read, Registers.getByte_setByte_self, lowByte,
      UInt8.toNat_ofNat', RegisterValue.number.injEq]
    omega

/-- Setting a flag puts a byte into `f`. -/
theorem setFlag_eq (flag : Flag) (value : Bool) :
    registers.setFlag flag value = registers.setByte .f (registers.setFlag flag value).f := rfl

/-- Writing through a view leaves the bits alone that the view does not cover. -/
theorem bit_write_of_not_covers {view : View} {bit : RegisterBit} (outside : ¬view.Covers bit)
    (value : Int) : (view.write registers value).bit bit = registers.bit bit := by
  obtain ⟨register, index⟩ := bit
  unfold Registers.bit
  cases view with
  | register target =>
    have apart : register ≠ target := by
      rintro rfl
      exact outside ⟨_, .register register index⟩
    rw [View.write, registers.read_write_of_ne apart]
  | pair pair =>
    have notHigh : register ≠ .byte pair.high := by
      rintro rfl
      exact outside ⟨_, .high pair index⟩
    have notLow : register ≠ .byte pair.low := by
      rintro rfl
      exact outside ⟨_, .low pair index⟩
    rw [View.write, Registers.setPair, Registers.read_setByte_of_ne _ notLow,
      Registers.read_setByte_of_ne _ notHigh]
  | flag flag =>
    rw [View.write]
    by_cases inFlags : register = .byte .f
    · subst inFlags
      obtain ⟨other, position⟩ := Flag.exists_position_eq index.val index.isLt
      obtain rfl : index = other.index := Fin.ext position.symm
      have apart : other ≠ flag := by
        rintro rfl
        exact outside ⟨_, .flag other⟩
      have kept := registers.getFlag_setFlag flag other (value != 0)
      rw [if_neg apart, Registers.getFlag_eq_testBit, Registers.getFlag_eq_testBit, position,
        ← bit_natCast, ← bit_natCast] at kept
      exact kept
    · rw [setFlag_eq, Registers.read_setByte_of_ne _ inFlags]

/-- Writing through a view puts the bits of the number into the bits that the view covers. -/
theorem bit_write_of_shows {view : View} {bit : RegisterBit} {place : Nat}
    (shown : view.Shows bit place) (value : Int) :
    (view.write registers value).bit bit = (view.held value).bit place := by
  rw [← bit_read _ shown, read_write_self]

/-- Writing through a view changes nothing that a view apart from it shows. -/
theorem read_write_of_apart {view other : View} (apart : view.Apart other) (value : Int) :
    other.read (view.write registers value) = other.read registers :=
  read_congr fun bit covered =>
    bit_write_of_not_covers registers (fun written => apart bit written covered) value

/-- Writes through views that are apart may be made in either order. -/
theorem write_comm {first second : View} (apart : first.Apart second) (left right : Int) :
    second.write (first.write registers left) right =
      first.write (second.write registers right) left := by
  apply Registers.ext_bit
  intro bit
  by_cases covered : first.Covers bit
  · have outside := apart bit covered
    obtain ⟨place, shown⟩ := covered
    rw [bit_write_of_not_covers _ outside, bit_write_of_shows _ shown, bit_write_of_shows _ shown]
  · rw [bit_write_of_not_covers _ covered]
    by_cases other : second.Covers bit
    · obtain ⟨place, shown⟩ := other
      rw [bit_write_of_shows _ shown, bit_write_of_shows _ shown]
    · rw [bit_write_of_not_covers _ other, bit_write_of_not_covers _ other,
        bit_write_of_not_covers _ covered]

/-- A view keeps what it shows itself. -/
theorem held_read (view : View) : view.held (view.read registers).toInt = view.read registers := by
  cases view with
  | register target =>
    have fits := registers.fits_read target
    cases target with
    | byte target => exact congrArg RegisterValue.number (Int.emod_eq_of_lt fits.1 fits.2)
    | word target => exact congrArg RegisterValue.number (Int.emod_eq_of_lt fits.1 fits.2)
    | flipFlop target =>
      rw [View.read, Registers.read]
      cases registers.getFlipFlop target <;> rfl
  | pair pair =>
    have fits := fits_word (registers.getPair pair)
    exact congrArg RegisterValue.number (Int.emod_eq_of_lt fits.1 fits.2)
  | flag flag =>
    rw [View.read]
    cases registers.getFlag flag <;> rfl

/-- Writing back what a view shows changes nothing. -/
theorem write_read (view : View) :
    view.write registers (view.read registers).toInt = registers := by
  apply Registers.ext_bit
  intro bit
  by_cases covered : view.Covers bit
  · obtain ⟨place, shown⟩ := covered
    rw [bit_write_of_shows _ shown, held_read, bit_read _ shown]
  · exact bit_write_of_not_covers _ covered _

/-- Of two writes through a view the second counts. -/
theorem write_write (view : View) (first second : Int) :
    view.write (view.write registers first) second = view.write registers second := by
  apply Registers.ext_bit
  intro bit
  by_cases covered : view.Covers bit
  · obtain ⟨place, shown⟩ := covered
    rw [bit_write_of_shows _ shown, bit_write_of_shows _ shown]
  · simp only [bit_write_of_not_covers _ covered]

end View

end Z80Monitor
