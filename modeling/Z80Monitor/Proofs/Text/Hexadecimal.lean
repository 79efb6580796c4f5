import Z80Monitor.Assembly.Statement

/-!
# Hexadecimal numerals

The text of a number in base 16 is read back as the number, whatever the width to which it is
filled with zeros. Its characters are the sixteen digits in upper case.
-/

namespace Z80Monitor

/-- The digit of a value in upper case. -/
def Text.upperDigit (value : Nat) : Char := (Nat.digitChar value).toUpper

/-- The number that digits denote with one more digit behind them. -/
theorem Text.ofDigits_concat (base : Nat) (digits : List Nat) (last : Nat) :
    ofDigits base (digits ++ [last]) = ofDigits base digits * base + last := by
  unfold ofDigits
  rw [List.foldl_append]
  rfl

/-- The text of a number is filled with zeros in front of its digits. -/
theorem Text.hex_natCast (width value : Nat) :
    hex width value =
      List.replicate (width - (hexDigits value).length) '0' ++ hexDigits value := by
  have positive : ¬(value : Int) < 0 := by omega
  rw [hex, signOf, if_neg positive, zeroFilled, Int.natAbs_natCast, List.nil_append,
    List.length_nil, Nat.zero_add]

/-- A number below 16 is written with one digit. -/
theorem Text.hexDigits_of_lt {value : Nat} (small : value < 16) :
    hexDigits value = [upperDigit value] := by
  rw [hexDigits, Nat.toDigits_of_lt_base small, List.map_singleton, upperDigit]

/-- Any other number is written with the digits of its sixteenth and one more digit. -/
theorem Text.hexDigits_of_le {value : Nat} (large : 16 ≤ value) :
    hexDigits value = hexDigits (value / 16) ++ [upperDigit (value % 16)] := by
  rw [hexDigits, Nat.toDigits_of_base_le (by decide) large, List.map_append, List.map_singleton,
    hexDigits, upperDigit]

/-- A number is written with at least one digit. -/
theorem Text.hexDigits_ne_nil (value : Nat) : hexDigits value ≠ [] := by
  rcases Nat.lt_or_ge value 16 with small | large
  · rw [hexDigits_of_lt small]
    exact List.cons_ne_nil _ _
  · rw [hexDigits_of_le large]
    exact List.append_ne_nil_of_right_ne_nil _ (List.cons_ne_nil _ _)

/-- The text of a number is not empty. -/
theorem Text.hex_ne_nil (width value : Nat) : hex width value ≠ [] := by
  rw [hex_natCast]
  exact List.append_ne_nil_of_right_ne_nil _ (hexDigits_ne_nil value)

/-- A number for which there is room is written to the width. -/
theorem Text.length_hex {width value : Nat} (occupied : 0 < width)
    (room : value < Nat.pow 16 width) : (hex width value).length = width := by
  have digits : (hexDigits value).length ≤ width := by
    rw [hexDigits, List.length_map]
    exact (Nat.length_toDigits_le_iff (by decide) occupied).mpr room
  rw [hex_natCast, List.length_append, List.length_replicate]
  omega

/-- A byte is written with two digits. -/
theorem Text.length_hexByte (value : UInt8) : (hexByte value).length = 2 :=
  length_hex (by decide) value.toNat_lt

/-- A word is written with four digits. -/
theorem Text.length_hexWord (value : UInt16) : (hexWord value).length = 4 :=
  length_hex (by decide) value.toNat_lt

/-- The digits of a number are digits below 16. -/
theorem Text.exists_of_mem_hexDigits {value : Nat} {char : Char}
    (inside : char ∈ hexDigits value) : ∃ digit < 16, char = upperDigit digit := by
  induction value using Nat.strongRecOn with
  | ind value ih =>
    rcases Nat.lt_or_ge value 16 with small | large
    · rw [hexDigits_of_lt small, List.mem_singleton] at inside
      exact ⟨value, small, inside⟩
    · rw [hexDigits_of_le large, List.mem_append, List.mem_singleton] at inside
      rcases inside with front | last
      · exact ih (value / 16) (by omega) front
      · exact ⟨value % 16, by omega, last⟩

/-- The text of a number consists of digits below 16. -/
theorem Text.exists_of_mem_hex {width value : Nat} {char : Char}
    (inside : char ∈ hex width value) : ∃ digit < 16, char = upperDigit digit := by
  rw [hex_natCast, List.mem_append] at inside
  rcases inside with filled | written
  · exact ⟨0, by decide, (List.mem_replicate.mp filled).2⟩
  · exact exists_of_mem_hexDigits written

namespace Statement

/-- The number that digits in base 16 denote. -/
def hexValue? (text : List Char) : Option Nat := (hexDigits? text).map (Text.ofDigits 16)

/-- A digit below 16 is read as its value. -/
theorem hexDigit?_upperDigit {value : Nat} (small : value < 16) :
    hexDigit? (Text.upperDigit value) = some value := by
  revert value
  decide

/-- Digits are read one by one. -/
theorem hexDigits?_concat {text : List Char} {digits : List Nat}
    (read : hexDigits? text = some digits) {last : Char} {value : Nat}
    (digit : hexDigit? last = some value) :
    hexDigits? (text ++ [last]) = some (digits ++ [value]) := by
  induction text generalizing digits with
  | nil =>
    obtain rfl := Option.some.inj read
    rw [List.nil_append, hexDigits?, digit]
    rfl
  | cons char rest ih =>
    rw [hexDigits?] at read
    rw [List.cons_append, hexDigits?]
    cases first : hexDigit? char with
    | none =>
      rw [first] at read
      cases read
    | some front =>
      rw [first] at read
      obtain ⟨behind, readBehind, rfl⟩ := Option.map_eq_some_iff.mp read
      simp only [ih readBehind, Option.map_some, List.cons_append]

/-- As many digits are read as there are characters. -/
theorem length_of_hexDigits? {text : List Char} {digits : List Nat}
    (read : hexDigits? text = some digits) : digits.length = text.length := by
  induction text generalizing digits with
  | nil =>
    obtain rfl := Option.some.inj read
    rfl
  | cons char rest ih =>
    rw [hexDigits?] at read
    cases first : hexDigit? char with
    | none =>
      rw [first] at read
      cases read
    | some front =>
      rw [first] at read
      obtain ⟨behind, readBehind, rfl⟩ := Option.map_eq_some_iff.mp read
      rw [List.length_cons, List.length_cons, ih readBehind]

/-- The digits of a number denote the number. -/
theorem hexValue?_hexDigits (value : Nat) : hexValue? (Text.hexDigits value) = some value := by
  -- Digits are read from the left and written from the right: the sixteenth of the number has all
  -- but the last of them.
  induction value using Nat.strongRecOn with
  | ind value ih =>
    rcases Nat.lt_or_ge value 16 with small | large
    · rw [Text.hexDigits_of_lt small, hexValue?, hexDigits?, hexDigit?_upperDigit small]
      exact congrArg some (by rw [Text.ofDigits, List.foldl_cons, List.foldl_nil]; omega)
    · obtain ⟨digits, read, value_eq⟩ := Option.map_eq_some_iff.mp (ih (value / 16) (by omega))
      have last := hexDigit?_upperDigit (Nat.mod_lt value (show 16 > 0 by decide))
      rw [Text.hexDigits_of_le large, hexValue?, hexDigits?_concat read last, Option.map_some,
        Text.ofDigits_concat, value_eq]
      exact congrArg some (Nat.div_add_mod' value 16)

/-- Zeros in front change nothing. -/
theorem hexValue?_zeros (count : Nat) (text : List Char) :
    hexValue? (List.replicate count '0' ++ text) = hexValue? text := by
  induction count with
  | zero => rfl
  | succ count ih =>
    rw [List.replicate_succ, List.cons_append, ← ih, hexValue?, hexValue?, hexDigits?,
      show hexDigit? '0' = some 0 by decide, Option.map_map]
    rfl

/-- The text of a number denotes the number. -/
theorem hexValue?_hex (width value : Nat) : hexValue? (Text.hex width value) = some value := by
  rw [Text.hex_natCast, hexValue?_zeros, hexValue?_hexDigits]

/-- Numbers whose texts are the same are the same. -/
theorem eq_of_hex_eq {width first second : Nat}
    (same : Text.hex width first = Text.hex width second) : first = second := by
  have read := hexValue?_hex width first
  rw [same, hexValue?_hex] at read
  exact (Option.some.inj read).symm

/-- Behind a dollar sign, digits are a numeral. -/
theorem readNumeral_dollar {digits : List Char} (occupied : digits ≠ []) {value : Nat}
    (read : hexValue? digits = some value) : readNumeral ('$' :: digits) = .ok value := by
  obtain ⟨values, found, rfl⟩ := Option.map_eq_some_iff.mp read
  have size := length_of_hexDigits? found
  rw [readNumeral, unmarked, found]
  cases values with
  | nil => exact absurd (List.eq_nil_of_length_eq_zero size.symm) occupied
  | cons first rest => rfl

end Statement

end Z80Monitor
