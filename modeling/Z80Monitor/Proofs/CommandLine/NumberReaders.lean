import Z80Monitor.Configuration.Reading
import Z80Monitor.Proofs.Assembly.Numeral
import Z80Monitor.Proofs.Text.Numeral

/-!
# The readers of numbers

Numbers are read at three places: as the address given to the command line, as a value of a
configuration, and as an operand of assembly text. Each has notations of its own, and where two of
them read what is written of a number, they read the number. The texts that are operands are those
of a small grammar, and behind anything but a dollar sign addresses and values of configurations are
the same texts.
-/

namespace Z80Monitor

/-- A text is read as an integer, given as an address and as a value of a configuration. -/
structure ReadsAs (text : List Char) (number : Int) : Prop where
  /-- As an address. -/
  address : Text.readAddress text = some number
  /-- As a value of a configuration. -/
  value : Configuration.readInteger (.text (String.ofList text)) = .ok number

/-- A number is spelled in base 16, in letters of any case and with any number of zeros in
front. -/
def SpellsHex (digits : List Char) (number : Nat) : Prop :=
  ∃ zeros, digits.map Char.toUpper = List.replicate zeros '0' ++ Text.hexDigits number

/-- What is written of a number is read as the number. -/
structure ReadAlike (number : Nat) : Prop where
  /-- Its text in base 10, where it is not too long to be read. -/
  decimal (short : (Text.decimal number).length ≤ Text.decimalDigitLimit) :
    ReadsAs (Text.decimal number) number
  /-- Its texts in base 16, behind the mark of the base. -/
  marked (digits : List Char) (spelled : SpellsHex digits number) (mark : Char)
    (known : mark = 'x' ∨ mark = 'X') : ReadsAs ('0' :: mark :: digits) number
  /-- These texts behind a dollar sign, as an address. -/
  dollar (digits : List Char) (spelled : SpellsHex digits number) :
    Text.readAddress ('$' :: digits) = some (number : Int)
  /-- These texts in upper case as an operand of assembly text, alone and in each of the notations
  with a mark. -/
  operand (digits : List Char) (spelled : SpellsHex digits number) (text : List Char)
    (written : let upper := digits.map Char.toUpper
      text ∈ [upper, '$' :: upper, '0' :: 'X' :: upper, upper ++ ['H']]) :
    Statement.readNumeral text = .ok number

/-- An address that does not begin with a dollar sign is read as integers with marks are. -/
theorem Text.readAddress_of_head? {text : List Char} (other : text.head? ≠ some '$') :
    readAddress text = readMarkedInteger text := by
  unfold readAddress
  split
  · exact absurd rfl other
  · rfl

/-- A text is read as a value of a configuration where it is an integer that may have a mark. -/
theorem Configuration.readInteger_text_eq_ok_iff {text : String} {number : Int} :
    readInteger (.text text) = .ok number ↔
      Text.readMarkedInteger text.toList = some number := by
  unfold readInteger
  dsimp only
  cases Text.readMarkedInteger text.toList with
  | none => exact iff_of_false nofun nofun
  | some value => rw [Except.ok.injEq, Option.some.injEq]

/-- An integer that may have a mark, and is no dollar sign, is read at both places. -/
theorem readsAs_of_readMarkedInteger {text : List Char} {number : Int}
    (other : text.head? ≠ some '$') (read : Text.readMarkedInteger text = some number) :
    ReadsAs text number where
  address := (Text.readAddress_of_head? other).trans read
  value := by rwa [Configuration.readInteger_text_eq_ok_iff, String.toList_ofList]

/-- Digits that have a value are a numeral of assembly text. -/
theorem Statement.isHex_of_hexValue? {text : List Char} (occupied : text ≠ []) {number : Nat}
    (read : hexValue? text = some number) : IsHex text ∧ hexNumber text = number := by
  obtain ⟨values, found, rfl⟩ := Option.map_eq_some_iff.mp read
  obtain ⟨inside, rfl⟩ := (hexDigits?_eq_some_iff text values).mp found
  exact ⟨⟨occupied, inside⟩, List.foldl_map.symm⟩

namespace SpellsHex

variable {digits : List Char} {number : Nat}

/-- A number is denoted by the digits that spell it. -/
theorem denotes (spelled : SpellsHex digits number) :
    Text.Base.hexadecimal.Denotes digits number := by
  obtain ⟨zeros, same⟩ := spelled
  have upper : digits.map Char.toUpper =
      (List.replicate zeros '0' ++ Nat.toDigits 16 number).map Char.toUpper := by
    rw [same, List.map_append, List.map_replicate, Text.hexDigits]
    rfl
  have written := (Text.Base.hexadecimal.denotes_toDigits number).zeros zeros
  rwa [← Text.Base.Denotes.upper_iff, upper, Text.Base.Denotes.upper_iff]

/-- In upper case they are a numeral of assembly text. -/
theorem isHex (spelled : SpellsHex digits number) :
    Statement.IsHex (digits.map Char.toUpper) ∧
      Statement.hexNumber (digits.map Char.toUpper) = number := by
  obtain ⟨zeros, same⟩ := spelled
  rw [same]
  apply Statement.isHex_of_hexValue?
  · exact List.append_ne_nil_of_right_ne_nil _ (Text.hexDigits_ne_nil number)
  · rw [Statement.hexValue?_zeros, Statement.hexValue?_hexDigits]

end SpellsHex

/-- Every number is read as itself wherever it is written. -/
theorem readAlike (number : Nat) : ReadAlike number where
  decimal := by
    intro short
    have denotes : Text.Base.decimal.Denotes (Text.decimal number) number :=
      Text.Base.decimal.denotes_toDigits number
    apply readsAs_of_readMarkedInteger
    · intro first
      exact denotes.not_mem (by decide) (List.mem_of_head? first)
    · rw [Text.readMarkedInteger, denotes.startsWithMark, if_neg Bool.false_ne_true]
      exact denotes.readInteger fun _ => short
  marked := by
    intro digits spelled mark known
    have marked : Text.startsWithMark ('0' :: mark :: digits) = true := by
      rcases known with rfl | rfl <;> rfl
    apply readsAs_of_readMarkedInteger
    · exact fun first => nomatch first
    · rw [Text.readMarkedInteger, if_pos marked]
      exact Text.readInteger_marked known spelled.denotes
  dollar := by
    intro digits spelled
    exact spelled.denotes.readInteger nofun
  operand := by
    intro digits spelled text written
    obtain ⟨hex, value⟩ := spelled.isHex
    rw [Statement.readNumeral_eq_ok_iff, ← value]
    simp only [List.mem_cons, List.not_mem_nil, or_false] at written
    rcases written with rfl | rfl | rfl | rfl
    · exact .bare hex
    · exact .dollar hex
    · exact .marked hex
    · exact .suffixed hex

/-- Numbers are read alike wherever they are written. The operands of assembly text are exactly the
numerals of the grammar, each with the number that it denotes there, and any other text is refused
as no numeral. Texts that do not begin with a dollar sign are addresses exactly where they are
integers of a configuration, and are the same integers there. -/
theorem numerals_read_alike :
    (∀ number, ReadAlike number) ∧
    (∀ text value, Statement.readNumeral text = .ok value ↔ Statement.Numeral text value) ∧
    (∀ text, (∀ value, ¬Statement.Numeral text value) →
      Statement.readNumeral text = .error (.invalidNumeral text)) ∧
    ∀ text : String, text.toList.head? ≠ some '$' → ∀ number,
      Text.readAddress text.toList = some number ↔
        Configuration.readInteger (.text text) = .ok number := by
  refine ⟨readAlike, Statement.readNumeral_eq_ok_iff, ?_, ?_⟩
  · intro text foreign
    cases read : Statement.readNumeral text with
    | ok value =>
      have numeral : Statement.Numeral text value :=
        (Statement.readNumeral_eq_ok_iff text value).mp read
      exact absurd numeral (foreign value)
    | error reason =>
      unfold Statement.readNumeral at read
      split at read
      · cases read
      · exact read.symm
  · intro text other number
    rw [Text.readAddress_of_head? other, Configuration.readInteger_text_eq_ok_iff]

/-- The number 11 in base 10, in lower case behind the mark of base 16 and behind a dollar sign, and
with a zero in front of the suffix, and the suffix alone, which is no numeral. An address with a
sign, blanks and an underscore is one of a configuration too. -/
theorem numerals_read_alike_eleven :
    ReadsAs ['1', '1'] 11 ∧ ReadsAs ['0', 'x', '0', 'b'] 11 ∧
      Text.readAddress ['$', '0', 'b'] = some 11 ∧
      Statement.readNumeral ['0', 'B', 'H'] = .ok 11 ∧
      Statement.readNumeral ['H'] = .error (.invalidNumeral ['H']) ∧
      Configuration.readInteger (.text " -1_1 ") = .ok (-11) := by
  obtain ⟨alike, grammar, refused, places⟩ := numerals_read_alike
  have spelled : SpellsHex ['0', 'b'] 11 := ⟨1, by decide⟩
  have foreign (value : Nat) : ¬Statement.Numeral ['H'] value := by
    intro numeral
    cases (grammar ['H'] value).mpr numeral
  have signed : Text.readAddress " -1_1 ".toList = some (-11) := by decide +kernel
  exact ⟨(alike 11).decimal (by decide), (alike 11).marked _ spelled 'x' (.inl rfl),
    (alike 11).dollar _ spelled, (alike 11).operand _ spelled _ (by decide),
    refused ['H'] foreign, (places " -1_1 " (by decide) (-11)).mp signed⟩

end Z80Monitor
