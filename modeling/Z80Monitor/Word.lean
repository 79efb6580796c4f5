/-!
# Bytes and words

A number of any size and sign stands for the byte, or the 16-bit word, with the same residue.
The residue laws here say that values and addresses wrap: adding a multiple of 256 to a value,
or a multiple of 65536 to an address, changes nothing.
-/

namespace Z80Monitor

/-- The byte with the residue of a number modulo 256. -/
def byte (value : Int) : UInt8 := UInt8.ofNat (value % 256).toNat

/-- The 16-bit word with the residue of a number modulo 65536. -/
def word (value : Int) : UInt16 := UInt16.ofNat (value % 65536).toNat

/-- The value of a byte read as two's complement, from -128 to 127. -/
def signed (value : UInt8) : Int :=
  if value.toNat < 128 then value.toNat else (value.toNat : Int) - 256

/-- The word with the given low and high bytes. -/
def littleEndian (low high : UInt8) : UInt16 := UInt16.ofNat (low.toNat + 256 * high.toNat)

/-- The low byte of a word. -/
def lowByte (value : UInt16) : UInt8 := UInt8.ofNat (value.toNat % 256)

/-- The high byte of a word. -/
def highByte (value : UInt16) : UInt8 := UInt8.ofNat (value.toNat / 256)

/-- The bitwise union of two numbers in two's complement of unbounded width. -/
def unionBits : Int → Int → Int
  | .ofNat left, .ofNat right => .ofNat (left ||| right)
  | .ofNat left, .negSucc right => .negSucc (right ^^^ (right &&& left))
  | .negSucc left, .ofNat right => .negSucc (left ^^^ (left &&& right))
  | .negSucc left, .negSucc right => .negSucc (left &&& right)

/-- The number whose bits are those of `low` and those of `high` moved up eight places. -/
def joinBytes (low high : Int) : Int := unionBits (high * 256) low

/-- A byte is its number's residue. -/
theorem toNat_byte (value : Int) : ((byte value).toNat : Int) = value % 256 := by
  have lower := Int.emod_nonneg value (show (256 : Int) ≠ 0 by decide)
  have upper := Int.emod_lt_of_pos value (show (0 : Int) < 256 by decide)
  simp only [byte, UInt8.toNat_ofNat']
  omega

/-- A word is its number's residue. -/
theorem toNat_word (value : Int) : ((word value).toNat : Int) = value % 65536 := by
  have lower := Int.emod_nonneg value (show (65536 : Int) ≠ 0 by decide)
  have upper := Int.emod_lt_of_pos value (show (0 : Int) < 65536 by decide)
  simp only [word, UInt16.toNat_ofNat']
  omega

/-- A byte's own value stands for it. -/
theorem byte_toNat (value : UInt8) : byte value.toNat = value := by
  have bound := value.toNat_lt
  have residue := toNat_byte value.toNat
  apply UInt8.toNat_inj.mp
  omega

/-- A word's own value stands for it. -/
theorem word_toNat (value : UInt16) : word value.toNat = value := by
  have bound := value.toNat_lt
  have residue := toNat_word value.toNat
  apply UInt16.toNat_inj.mp
  omega

/-- Two numbers stand for one byte exactly when they are congruent modulo 256. -/
theorem byte_eq_byte_iff (left right : Int) :
    byte left = byte right ↔ left % 256 = right % 256 := by
  rw [← UInt8.toNat_inj]
  have hl := toNat_byte left
  have hr := toNat_byte right
  omega

/-- Two numbers stand for one word exactly when they are congruent modulo 65536. -/
theorem word_eq_word_iff (left right : Int) :
    word left = word right ↔ left % 65536 = right % 65536 := by
  rw [← UInt16.toNat_inj]
  have hl := toNat_word left
  have hr := toNat_word right
  omega

/-- A word is determined by its two bytes. -/
theorem littleEndian_lowByte_highByte (value : UInt16) :
    littleEndian (lowByte value) (highByte value) = value := by
  have bound := value.toNat_lt
  apply UInt16.toNat_inj.mp
  simp only [littleEndian, lowByte, highByte, UInt16.toNat_ofNat', UInt8.toNat_ofNat']
  omega

/-- The low byte of a joined word. -/
theorem lowByte_littleEndian (low high : UInt8) : lowByte (littleEndian low high) = low := by
  have bound := low.toNat_lt
  have bound' := high.toNat_lt
  apply UInt8.toNat_inj.mp
  simp only [littleEndian, lowByte, UInt16.toNat_ofNat', UInt8.toNat_ofNat']
  omega

/-- The high byte of a joined word. -/
theorem highByte_littleEndian (low high : UInt8) : highByte (littleEndian low high) = high := by
  have bound := low.toNat_lt
  have bound' := high.toNat_lt
  apply UInt8.toNat_inj.mp
  simp only [littleEndian, highByte, UInt16.toNat_ofNat', UInt8.toNat_ofNat']
  omega

end Z80Monitor
