import Z80Monitor.Proofs.Text.Hexadecimal
import Z80Monitor.Proofs.Text.Words

/-!
# Digits and the numbers that they denote

A text of digits denotes a number in a base. What is written of a number in a base denotes it
there, and neither zeros in front nor the case of letters matter. Such a text is read as the number,
by itself and behind the mark of base 16; in base 10 only where it is not too long. No two integers
are written alike in base 10.
-/

namespace Z80Monitor.Text

/-! ## Digits -/

/-- A text of digits of a base, of which there is at least one, that denote a number. -/
structure Base.Denotes (base : Base) (text : List Char) (number : Nat) : Prop where
  /-- There is a digit. -/
  occupied : text ≠ []
  /-- The digits have values that come to the number. -/
  value : ∃ digits, text.map base.digit? = digits.map some ∧ ofDigits base.size digits = number

/-- The digit that is written for a value has the value. -/
theorem Base.digit?_digitChar (base : Base) {value : Nat} (small : value < base.size) :
    base.digit? (Nat.digitChar value) = some value := by
  cases base <;> revert value <;> decide

/-- A zero in front adds nothing. -/
theorem ofDigits_zero_cons (base : Nat) (digits : List Nat) :
    ofDigits base (0 :: digits) = ofDigits base digits := by
  rw [ofDigits, List.foldl_cons, Nat.zero_mul, Nat.zero_add, ofDigits]

/-- What is written of a number in a base denotes the number there. -/
theorem Base.denotes_toDigits (base : Base) (number : Nat) :
    base.Denotes (Nat.toDigits base.size number) number := by
  have several : 1 < base.size := by cases base <;> decide
  refine ⟨Nat.toDigits_ne_nil, ?_⟩
  induction number using Nat.strongRecOn with
  | ind number ih =>
    rcases Nat.lt_or_ge number base.size with small | large
    · refine ⟨[number], ?_, ?_⟩
      · rw [Nat.toDigits_of_lt_base small, List.map_singleton, base.digit?_digitChar small,
          List.map_singleton]
      · rw [ofDigits, List.foldl_cons, List.foldl_nil]
        omega
    · have less : number / base.size < number := Nat.div_lt_self (by omega) several
      have last : number % base.size < base.size := Nat.mod_lt number (by omega)
      obtain ⟨digits, read, value⟩ := ih (number / base.size) less
      refine ⟨digits ++ [number % base.size], ?_, ?_⟩
      · rw [Nat.toDigits_of_base_le several large, List.map_append, read, List.map_singleton,
          base.digit?_digitChar last, List.map_append, List.map_singleton]
      · rw [ofDigits_concat, value]
        exact Nat.div_add_mod' number base.size

/-- Beyond ASCII no letter changes its case. -/
theorem case_eq_self {char : Char} (beyond : 128 ≤ char.toNat) :
    char.toUpper = char ∧ char.toLower = char := by
  have code : 128 ≤ char.val.toNat := beyond
  constructor
  · delta Char.toUpper
    rw [dif_neg]
    rintro ⟨_, below⟩
    have small : char.val.toNat ≤ 122 := UInt32.le_iff_toNat_le.mp below
    omega
  · delta Char.toLower
    rw [dif_neg]
    rintro ⟨_, below⟩
    have small : char.val.toNat ≤ 90 := UInt32.le_iff_toNat_le.mp below
    omega

/-- The case of a letter does not matter to its value as a digit. -/
theorem digitValue?_case (char : Char) :
    digitValue? char.toUpper = digitValue? char ∧ digitValue? char.toLower = digitValue? char := by
  have small : ∀ code < 128,
      digitValue? (Char.ofNat code).toUpper = digitValue? (Char.ofNat code) ∧
        digitValue? (Char.ofNat code).toLower = digitValue? (Char.ofNat code) := by
    decide +kernel
  by_cases ascii : char.toNat < 128
  · have found := small char.toNat ascii
    rwa [Char.ofNat_toNat] at found
  · obtain ⟨upper, lower⟩ := case_eq_self (Nat.not_lt.mp ascii)
    rw [upper, lower]
    exact ⟨rfl, rfl⟩

namespace Base.Denotes

variable {base : Base} {text : List Char} {number : Nat}

/-- Digits denote one number. -/
theorem unique (denotes : base.Denotes text number) {other : Nat}
    (again : base.Denotes text other) : number = other := by
  obtain ⟨_, digits, read, rfl⟩ := denotes
  obtain ⟨_, values, readAgain, rfl⟩ := again
  have same : digits = values :=
    (List.map_inj_right fun _ _ => Option.some.inj).mp (read.symm.trans readAgain)
  rw [same]

/-- Each of the characters is a digit. -/
theorem exists_digit (denotes : base.Denotes text number) {char : Char} (inside : char ∈ text) :
    ∃ value, base.digit? char = some value := by
  obtain ⟨_, digits, read, _⟩ := denotes
  have listed : base.digit? char ∈ digits.map some := read ▸ List.mem_map_of_mem inside
  obtain ⟨value, _, same⟩ := List.mem_map.mp listed
  exact ⟨value, same.symm⟩

/-- What is no digit is not among them. -/
theorem not_mem (denotes : base.Denotes text number) {char : Char}
    (foreign : base.digit? char = none) : char ∉ text := by
  intro inside
  obtain ⟨value, read⟩ := denotes.exists_digit inside
  rw [foreign] at read
  cases read

/-- Zeros in front do not matter. -/
theorem zeros (denotes : base.Denotes text number) (count : Nat) :
    base.Denotes (List.replicate count '0' ++ text) number := by
  have zero : base.digit? '0' = some 0 := by cases base <;> decide
  induction count with
  | zero => exact denotes
  | succ count ih =>
    obtain ⟨_, digits, read, value⟩ := ih
    refine ⟨List.cons_ne_nil _ _, 0 :: digits, ?_, ?_⟩
    · rw [List.replicate_succ, List.cons_append, List.map_cons, zero, read, List.map_cons]
    · rw [ofDigits_zero_cons, value]

/-- Neither does the case of letters. -/
theorem upper_iff :
    base.Denotes (text.map Char.toUpper) number ↔ base.Denotes text number := by
  have same : base.digit? ∘ Char.toUpper = base.digit? := by
    funext char
    rw [Function.comp_apply, Base.digit?, Base.digit?, (digitValue?_case char).1]
  constructor
  · rintro ⟨occupied, digits, read, value⟩
    rw [List.map_map, same] at read
    exact ⟨fun empty => occupied (List.map_eq_nil_iff.mpr empty), digits, read, value⟩
  · rintro ⟨occupied, digits, read, value⟩
    refine ⟨fun empty => occupied (List.map_eq_nil_iff.mp empty), digits, ?_, value⟩
    rw [List.map_map, same, read]

end Base.Denotes

/-! ## Integers in base 10 -/

/-- What is written of a number in base 10 is digits alone. -/
theorem not_mem_toDigits (number : Nat) {char : Char} (foreign : Base.decimal.digit? char = none) :
    char ∉ Nat.toDigits 10 number :=
  (Base.decimal.denotes_toDigits number).not_mem foreign

/-- No two integers are written alike in base 10. -/
theorem decimal_injective : Function.Injective decimal := by
  intro first second same
  have minus (number : Nat) : '-' ∉ Nat.toDigits 10 number := not_mem_toDigits number (by decide)
  have size (same : Nat.toDigits 10 first.natAbs = Nat.toDigits 10 second.natAbs) :
      first.natAbs = second.natAbs :=
    (Base.decimal.denotes_toDigits _).unique (same ▸ Base.decimal.denotes_toDigits _)
  unfold decimal signOf at same
  by_cases negative : first < 0
  · by_cases negative' : second < 0
    · rw [if_pos negative, if_pos negative'] at same
      have sizes := size (List.append_cancel_left same)
      omega
    · rw [if_pos negative, if_neg negative', List.nil_append] at same
      exact absurd (same ▸ List.mem_cons_self) (minus second.natAbs)
  · by_cases negative' : second < 0
    · rw [if_neg negative, if_pos negative', List.nil_append] at same
      exact absurd (same ▸ List.mem_cons_self) (minus first.natAbs)
    · rw [if_neg negative, if_neg negative'] at same
      have sizes := size (List.append_cancel_left same)
      omega

/-! ## Reading -/

/-- Digits without underscores are read one by one. -/
theorem digitValues_of_digits {base : Base} {text : List Char} {digits : List Nat}
    (read : text.map base.digit? = digits.map some) {digitDue : Bool}
    (occupied : digitDue = true → text ≠ []) : digitValues base digitDue text = some digits := by
  induction text generalizing digits digitDue with
  | nil =>
    cases digitDue with
    | true => exact absurd rfl (occupied rfl)
    | false =>
      obtain rfl := List.map_eq_nil_iff.mp read.symm
      rfl
  | cons char rest ih =>
    obtain ⟨value, behind, rfl⟩ := List.exists_cons_of_length_pos (l := digits) (by
      rw [← List.length_map (f := some), ← read]
      exact Nat.succ_pos _)
    obtain ⟨first, others⟩ := List.cons.inj read
    have plain : char ≠ '_' := by
      rintro rfl
      revert first
      cases base <;> exact nofun
    rw [digitValues, if_neg plain, first]
    dsimp only
    rw [ih others (by exact nofun), Option.map_some]

/-- Characters of ASCII that are no white space: they are kept when a numeral is read. -/
def IsPlain (char : Char) : Prop := char.toNat < 128 ∧ isNumeralBlank char = false

instance (char : Char) : Decidable (IsPlain char) :=
  inferInstanceAs (Decidable (char.toNat < 128 ∧ isNumeralBlank char = false))

/-- A digit is such a character. -/
theorem Base.isPlain_of_digit? {base : Base} {char : Char} {value : Nat}
    (read : base.digit? char = some value) : IsPlain char := by
  have solid : ∀ code < 128, (digitValue? (Char.ofNat code)).isSome = true →
      isNumeralBlank (Char.ofNat code) = false := by
    decide +kernel
  have found : (digitValue? char).isSome = true := by
    unfold Base.digit? at read
    split at read
    · rename_i given
      rw [given, Option.isSome_some]
    · cases read
  have small : char.toNat < 128 := by
    unfold digitValue? at found
    simp only [Bool.and_eq_true, decide_eq_true_eq] at found
    split at found
    · omega
    · split at found
      · omega
      · split at found
        · omega
        · cases found
  have stays := solid char.toNat small
  rw [Char.ofNat_toNat] at stays
  exact ⟨small, stays found⟩

/-- A text of such characters is read as it stands. -/
theorem readable_of_plain {text : List Char} (plain : ∀ char ∈ text, IsPlain char) :
    (trimBy isNumeralBlank text).map asciiDigit = text := by
  have digits : ∀ code < 128, asciiDigit (Char.ofNat code) = Char.ofNat code := by decide +kernel
  have trimmed : trimBy isNumeralBlank text = text :=
    trimBy_eq_self (fun char first => (plain char (List.mem_of_head? first)).2)
      fun char last => (plain char (List.mem_of_getLast? last)).2
  have kept (char : Char) (inside : char ∈ text) : asciiDigit char = id char := by
    have found := digits char.toNat (plain char inside).1
    rwa [Char.ofNat_toNat] at found
  rw [trimmed, List.map_congr_left kept, List.map_id]

/-- A text without a sign is read as an unsigned numeral. -/
theorem parseInteger_of_plain {base : Base} {text : List Char}
    (plain : ∀ char ∈ text, IsPlain char)
    (unsigned : ∀ char ∈ text.head?, char ≠ '+' ∧ char ≠ '-') :
    parseInteger base text = (parseUnsigned base text).map Int.ofNat := by
  rw [parseInteger, readable_of_plain plain]
  split
  · exact absurd rfl (unsigned '+' rfl).1
  · exact absurd rfl (unsigned '-' rfl).2
  · rfl

namespace Base.Denotes

variable {base : Base} {text : List Char} {number : Nat}

/-- Digits are read as the number that they denote, in base 10 where they are not too many. -/
theorem parseMagnitude (denotes : base.Denotes text number)
    (short : base = .decimal → text.length ≤ decimalDigitLimit) :
    parseMagnitude base text = .ok number := by
  have whole : text.takeWhile (fun char => char == '_' || (base.digit? char).isSome) = text := by
    apply takeWhile_eq_self
    intro char inside
    obtain ⟨value, found⟩ := denotes.exists_digit inside
    rw [found, Option.isSome_some, Bool.or_true]
  obtain ⟨occupied, digits, read, value⟩ := denotes
  have count : digits.length = text.length := by
    rw [← List.length_map (f := some), ← read, List.length_map]
  have admitted : ¬(base = .decimal && decimalDigitLimit < digits.length) = true := by
    rw [Bool.and_eq_true, decide_eq_true_eq, decide_eq_true_eq, count]
    rintro ⟨ten, long⟩
    exact absurd (short ten) (Nat.not_le.mpr long)
  unfold Text.parseMagnitude
  dsimp only
  rw [whole, digitValues_of_digits read fun _ => occupied]
  dsimp only
  rw [if_neg admitted, if_neg (Nat.lt_irrefl _), value]

/-- Digits have no mark in front. -/
theorem behindMark (denotes : base.Denotes text number) : base.behindMark text = text := by
  unfold Base.behindMark
  split
  · rename_i letter rest
    rw [if_neg]
    intro marked
    have foreign : base.digit? letter = none := by
      rw [Base.digit?, ← (digitValue?_case letter).2]
      cases base with
      | decimal => cases marked
      | _ =>
        rw [← Option.some.inj marked]
        decide
    exact denotes.not_mem foreign (List.mem_cons_of_mem _ List.mem_cons_self)
  · rfl

/-- They are read as they stand. -/
theorem isPlain (denotes : base.Denotes text number) : ∀ char ∈ text, IsPlain char := by
  intro char inside
  obtain ⟨value, read⟩ := denotes.exists_digit inside
  exact isPlain_of_digit? read

/-- Digits are read as the integer that they denote, in base 10 where they are not too many. -/
theorem readInteger (denotes : base.Denotes text number)
    (short : base = .decimal → text.length ≤ decimalDigitLimit) :
    readInteger base text = some (number : Int) := by
  have signs : base.digit? '+' = none ∧ base.digit? '-' = none := by cases base <;> decide
  have unsigned : ∀ char ∈ text.head?, char ≠ '+' ∧ char ≠ '-' := by
    intro char first
    have inside : char ∈ text := List.mem_of_head? first
    constructor
    · rintro rfl
      exact denotes.not_mem signs.1 inside
    · rintro rfl
      exact denotes.not_mem signs.2 inside
  rw [Text.readInteger, parseInteger_of_plain denotes.isPlain unsigned, parseUnsigned,
    denotes.behindMark, denotes.parseMagnitude short]
  rfl

/-- Digits do not begin with the mark of base 16. -/
theorem startsWithMark (denotes : base.Denotes text number) : startsWithMark text = false := by
  have marks : base.digit? 'x' = none ∧ base.digit? 'X' = none := by cases base <;> decide
  unfold Text.startsWithMark
  split
  · rename_i mark rest
    have inside : mark ∈ '0' :: mark :: rest := List.mem_cons_of_mem _ List.mem_cons_self
    rw [Bool.or_eq_false_iff, beq_eq_false_iff_ne, beq_eq_false_iff_ne]
    constructor
    · rintro rfl
      exact denotes.not_mem marks.1 inside
    · rintro rfl
      exact denotes.not_mem marks.2 inside
  · rfl

end Base.Denotes

/-- The mark of base 16 in front of digits is no part of the number. -/
theorem readInteger_marked {mark : Char} (marked : mark = 'x' ∨ mark = 'X') {digits : List Char}
    {number : Nat} (denotes : Base.hexadecimal.Denotes digits number) :
    readInteger .hexadecimal ('0' :: mark :: digits) = some (number : Int) := by
  have plain : ∀ char ∈ '0' :: mark :: digits, IsPlain char := by
    intro char inside
    rcases List.mem_cons.mp inside with rfl | behind
    · decide
    · rcases List.mem_cons.mp behind with rfl | inside
      · rcases marked with rfl | rfl <;> decide
      · exact denotes.isPlain char inside
  have unsigned : ∀ char ∈ ('0' :: mark :: digits).head?, char ≠ '+' ∧ char ≠ '-' := by
    rintro _ ⟨⟩
    decide
  have bare : Base.hexadecimal.behindMark ('0' :: mark :: digits) = digits := by
    have letter : Base.hexadecimal.letter? = some mark.toLower := by
      rcases marked with rfl | rfl <;> decide
    simp only [Base.behindMark, if_pos letter]
    split
    · exact absurd List.mem_cons_self (denotes.not_mem (by decide))
    · rfl
  rw [readInteger, parseInteger_of_plain plain unsigned, parseUnsigned, bare,
    denotes.parseMagnitude nofun]
  rfl

end Z80Monitor.Text
