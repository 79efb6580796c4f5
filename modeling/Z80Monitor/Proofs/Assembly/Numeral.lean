import Z80Monitor.Assembly.Statement

/-!
# Hexadecimal numerals of assembly text

A numeral is a run of hexadecimal digits in upper case, alone or with one of three marks that make
it hexadecimal. These texts, and no others, are read as numbers, each as the number of its digits.
-/

namespace Z80Monitor.Statement

/-- The hexadecimal digits in the order of their values. -/
def hexAlphabet : List Char := "0123456789ABCDEF".toList

/-- A text of hexadecimal digits, of which there is at least one. -/
def IsHex (text : List Char) : Prop := text ≠ [] ∧ ∀ char ∈ text, char ∈ hexAlphabet

/-- The number that hexadecimal digits denote, the most significant first. -/
def hexNumber (digits : List Char) : Nat :=
  digits.foldl (fun value digit => value * 16 + hexAlphabet.idxOf digit) 0

/-- The texts that denote a number. -/
inductive Numeral : List Char → Nat → Prop where
  /-- Digits alone. -/
  | bare {digits : List Char} (hex : IsHex digits) : Numeral digits (hexNumber digits)
  /-- A dollar sign in front. -/
  | dollar {digits : List Char} (hex : IsHex digits) : Numeral ('$' :: digits) (hexNumber digits)
  /-- A zero and the letter `X` in front. -/
  | marked {digits : List Char} (hex : IsHex digits) :
    Numeral ('0' :: 'X' :: digits) (hexNumber digits)
  /-- The letter `H` behind. -/
  | suffixed {digits : List Char} (hex : IsHex digits) :
    Numeral (digits ++ ['H']) (hexNumber digits)

/-- A character is a digit where it is one of the sixteen, and its place is its value. -/
theorem hexDigit?_eq (char : Char) :
    hexDigit? char = if char ∈ hexAlphabet then some (hexAlphabet.idxOf char) else none := by
  have small : ∀ code < 128, hexDigit? (Char.ofNat code) =
      if Char.ofNat code ∈ hexAlphabet then some (hexAlphabet.idxOf (Char.ofNat code))
      else none := by
    decide +kernel
  by_cases ascii : char.toNat < 128
  · have found := small char.toNat ascii
    rwa [Char.ofNat_toNat] at found
  · have low : hexAlphabet.all (·.toNat < 128) = true := by decide
    have apart : char ∉ hexAlphabet := fun inside =>
      ascii (of_decide_eq_true (List.all_eq_true.mp low char inside))
    rw [if_neg apart, hexDigit?]
    simp only [Bool.and_eq_true, decide_eq_true_eq]
    rw [if_neg (by omega), if_neg (by omega)]

/-- Texts of hexadecimal digits have values, and no other texts. -/
theorem hexDigits?_eq_some_iff (text : List Char) (values : List Nat) :
    hexDigits? text = some values ↔
      (∀ char ∈ text, char ∈ hexAlphabet) ∧ text.map hexAlphabet.idxOf = values := by
  induction text generalizing values with
  | nil =>
    rw [hexDigits?, Option.some_inj, List.map_nil]
    exact ⟨fun same => ⟨fun char inside => absurd inside List.not_mem_nil, same⟩, And.right⟩
  | cons char rest ih =>
    rw [hexDigits?, hexDigit?_eq, List.forall_mem_cons, List.map_cons]
    by_cases inside : char ∈ hexAlphabet
    · rw [if_pos inside]
      simp only [Option.map_eq_some_iff, ih]
      constructor
      · rintro ⟨behind, ⟨others, rfl⟩, rfl⟩
        exact ⟨⟨inside, others⟩, rfl⟩
      · rintro ⟨⟨_, others⟩, rfl⟩
        exact ⟨_, ⟨others, rfl⟩, rfl⟩
    · rw [if_neg inside]
      constructor
      · rintro ⟨⟩
      · rintro ⟨⟨listed, _⟩, _⟩
        exact absurd listed inside

/-- A text is read as the number of the digits that are left without a mark. -/
theorem readNumeral_eq_ok_iff_unmarked (text : List Char) (value : Nat) :
    readNumeral text = .ok value ↔ IsHex (unmarked text) ∧ hexNumber (unmarked text) = value := by
  have number (digits : List Char) :
      Text.ofDigits 16 (digits.map hexAlphabet.idxOf) = hexNumber digits := List.foldl_map
  have read := hexDigits?_eq_some_iff (unmarked text)
  rw [readNumeral, IsHex]
  generalize unmarked text = digits at read
  split
  · rename_i first rest found
    obtain ⟨hex, values⟩ := (read _).mp found
    have occupied : digits ≠ [] := by
      rintro rfl
      cases values
    rw [← values, number, Except.ok.injEq]
    exact ⟨fun same => ⟨⟨occupied, hex⟩, same⟩, And.right⟩
  · rename_i other
    constructor
    · rintro ⟨⟩
    · rintro ⟨⟨occupied, hex⟩, _⟩
      obtain ⟨char, behind, rfl⟩ := List.exists_cons_of_ne_nil occupied
      exact absurd ((read _).mpr ⟨hex, rfl⟩) (other _ _)

/-- The letters of the marks are no digits. -/
theorem not_mem_hexAlphabet : '$' ∉ hexAlphabet ∧ 'X' ∉ hexAlphabet ∧ 'H' ∉ hexAlphabet := by
  decide

/-- A text is a mark and what is left without it. -/
theorem numeral_of_unmarked {text : List Char} (hex : IsHex (unmarked text)) :
    Numeral text (hexNumber (unmarked text)) := by
  unfold unmarked at hex ⊢
  split at hex
  · exact .dollar hex
  · exact .marked hex
  · split at hex
    · rename_i suffixed
      rw [if_pos suffixed]
      rw [Bool.and_eq_true, beq_iff_eq] at suffixed
      obtain ⟨digits, rfl⟩ := List.getLast?_eq_some_iff.mp suffixed.2
      rw [List.dropLast_concat] at hex ⊢
      exact .suffixed hex
    · rename_i plain
      rw [if_neg plain]
      exact .bare hex

/-- Digits alone have no mark. -/
theorem unmarked_of_isHex {digits : List Char} (hex : IsHex digits) : unmarked digits = digits := by
  obtain ⟨noDollar, noX, noH⟩ := not_mem_hexAlphabet
  obtain ⟨_, inside⟩ := hex
  unfold unmarked
  split
  · exact absurd (inside '$' List.mem_cons_self) noDollar
  · exact absurd (inside 'X' (List.mem_cons_of_mem '0' List.mem_cons_self)) noX
  · rw [if_neg]
    rw [Bool.and_eq_true, beq_iff_eq]
    rintro ⟨_, last⟩
    exact noH (inside 'H' (List.mem_of_getLast? last))

/-- Digits with an `H` behind them have no other mark. -/
theorem unmarked_append {digits : List Char} (hex : IsHex digits) :
    unmarked (digits ++ ['H']) = digits := by
  obtain ⟨noDollar, noX, _⟩ := not_mem_hexAlphabet
  obtain ⟨occupied, inside⟩ := hex
  obtain ⟨first, rest, rfl⟩ := List.exists_cons_of_ne_nil occupied
  unfold unmarked
  split
  · rename_i same
    obtain rfl := (List.cons.inj same).1
    exact absurd (inside '$' List.mem_cons_self) noDollar
  · rename_i same
    obtain ⟨rfl, behind⟩ := List.cons.inj same
    cases rest with
    | nil => cases behind
    | cons second rest =>
      obtain rfl := (List.cons.inj behind).1
      exact absurd (inside 'X' (List.mem_cons_of_mem '0' List.mem_cons_self)) noX
  · rw [if_pos, List.dropLast_concat]
    rw [Bool.and_eq_true, beq_iff_eq, List.getLast?_concat, decide_eq_true_eq, List.length_append]
    exact ⟨by simp, rfl⟩

/-- Numerals are read as the numbers that they denote, and no other texts are read. -/
theorem readNumeral_eq_ok_iff (text : List Char) (value : Nat) :
    readNumeral text = .ok value ↔ Numeral text value := by
  rw [readNumeral_eq_ok_iff_unmarked]
  constructor
  · rintro ⟨hex, rfl⟩
    exact numeral_of_unmarked hex
  · intro numeral
    cases numeral with
    | bare hex =>
      rw [unmarked_of_isHex hex]
      exact ⟨hex, rfl⟩
    | dollar hex => exact ⟨hex, rfl⟩
    | marked hex => exact ⟨hex, rfl⟩
    | suffixed hex =>
      rw [unmarked_append hex]
      exact ⟨hex, rfl⟩

end Z80Monitor.Statement
