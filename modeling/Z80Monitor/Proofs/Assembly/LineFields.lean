import Mathlib.Data.List.Forall2
import Mathlib.Logic.Relation
import Z80Monitor.Assembly.Statement
import Z80Monitor.Proofs.Text.Fields

/-!
# The word and the field of a line

The statement on a line is found in two texts: the first word of the line and the rest without its
white space, both of the upper case of what stands in front of a comment. Letter case, comments and
white space around the word and in the rest change neither of them.
-/

namespace Z80Monitor

namespace Text

/-- A character that is not ASCII is no letter whose case is changed. -/
theorem toUpper_of_le {char : Char} (high : 128 ≤ char.toNat) : char.toUpper = char := by
  have outside : ¬('a'.val ≤ char.val ∧ char.val ≤ 'z'.val) := by
    rintro ⟨_, below⟩
    exact absurd (Nat.le_trans high below) (by decide)
  exact dif_neg outside

/-- The upper case of an ASCII character is one, and the semicolon is that of itself only. -/
theorem toUpper_of_lt {char : Char} (ascii : char.toNat < 128) :
    char.toUpper.toNat < 128 ∧ (char.toUpper = ';' → char = ';') := by
  have each : ∀ code < 128, (Char.ofNat code).toUpper.toNat < 128 ∧
      ((Char.ofNat code).toUpper = ';' → Char.ofNat code = ';') := by
    decide +kernel
  have found := each char.toNat ascii
  rwa [Char.ofNat_toNat] at found

/-- Characters that differ in ASCII letter case at most have the same upper case. -/
theorem upperChar_congr {char other : Char} (same : char.toUpper = other.toUpper) :
    upperChar char = upperChar other := by
  rcases Nat.lt_or_ge char.toNat 128 with ascii | high <;>
    rcases Nat.lt_or_ge other.toNat 128 with otherAscii | otherHigh
  · rw [upperChar_of_lt ascii, upperChar_of_lt otherAscii, same]
  · have low := (toUpper_of_lt ascii).1
    rw [same, toUpper_of_le otherHigh] at low
    exact absurd low (Nat.not_lt.mpr otherHigh)
  · have low := (toUpper_of_lt otherAscii).1
    rw [← same, toUpper_of_le high] at low
    exact absurd low (Nat.not_lt.mpr high)
  · rw [toUpper_of_le high, toUpper_of_le otherHigh] at same
    rw [same]

/-- A character that differs from a semicolon in ASCII letter case at most is one. -/
theorem eq_semicolon_of_toUpper {char : Char} (same : char.toUpper = ';') : char = ';' := by
  rcases Nat.lt_or_ge char.toNat 128 with ascii | high
  · exact (toUpper_of_lt ascii).2 same
  · rwa [toUpper_of_le high] at same

end Text

namespace Statement

/-- The upper case of what stands on a line in front of a comment. -/
def lineText (line : List Char) : List Char := Text.upper (line.takeWhile (· != ';'))

/-- The word that a line begins with. -/
def lineWord (line : List Char) : List Char := Text.firstWord (lineText line)

/-- What stands behind the first word of a line, without white space. -/
def lineField (line : List Char) : List Char := Text.squeeze (Text.behindWord (lineText line))

/-- The operands in a field. -/
def fieldOperands (field : List Char) : List (List Char) :=
  if field = [] then [] else Text.splitOn ',' field

/-- The statement on a line is found in its word and its field. -/
theorem ofLine?_eq (line : List Char) :
    ofLine? line =
      if lineWord line = [] then none
      else some ⟨lineWord line, fieldOperands (lineField line)⟩ := by
  rw [ofLine?, significant, Text.words_upper_trim, ← lineText, Text.words_eq, ← lineWord]
  by_cases empty : lineWord line = []
  · rw [if_pos empty, if_pos empty]
  · rw [if_neg empty, if_neg empty]
    simp only [Text.flatten_words, List.isEmpty_iff]
    rfl

/-- The operands with commas between them are the field. -/
theorem intercalate_fieldOperands (field : List Char) :
    [','].intercalate (fieldOperands field) = field := by
  unfold fieldOperands
  split
  · rename_i empty
    rw [empty]
    rfl
  · exact Text.intercalate_splitOn field

/-- One line is another with one change to its letter case, its comment or its white space. -/
inductive Restyled : List Char → List Char → Prop where
  /-- ASCII letters are written in the other case. -/
  | recased {line other : List Char}
      (same : List.Forall₂ (fun char image : Char => char.toUpper = image.toUpper) line other) :
      Restyled line other
  /-- A comment is put behind the line. -/
  | commented (line comment : List Char) : Restyled line (line ++ ';' :: comment)
  /-- White space is put in front of the line. -/
  | indented {lead : List Char} (blank : Text.Blank lead) (line : List Char) :
      Restyled line (lead ++ line)
  /-- White space is put behind the first word, into what follows it or behind that, or is taken
  out there. -/
  | spaced {word rest other : List Char} (occupied : word ≠ []) (solid : Text.Solid word)
      (plain : ';' ∉ word) (ends : Text.EndsWord rest) (otherEnds : Text.EndsWord other)
      (same : Text.squeeze rest = Text.squeeze other) : Restyled (word ++ rest) (word ++ other)

section Front

/-- What stands in front of a semicolon is not reached by what is put behind it. -/
theorem takeWhile_append_comment (line comment : List Char) :
    (line ++ ';' :: comment).takeWhile (· != ';') = line.takeWhile (· != ';') := by
  induction line with
  | nil => rfl
  | cons char rest ih => rw [List.cons_append, List.takeWhile_cons, List.takeWhile_cons, ih]

/-- A text without a semicolon stands in front of a comment as a whole. -/
theorem lineText_append {front : List Char} (plain : ';' ∉ front) (rest : List Char) :
    lineText (front ++ rest) = Text.upper front ++ lineText rest := by
  have taken : ∀ char ∈ front, (char != ';') = true := by
    intro char inside
    rw [bne_iff_ne]
    rintro rfl
    exact plain inside
  rw [lineText, List.takeWhile_append_of_pos taken, Text.upper_append, ← lineText]

/-- Letter case does not matter to the upper case of what stands in front of a comment. -/
theorem lineText_recased {line other : List Char}
    (same : List.Forall₂ (fun char image : Char => char.toUpper = image.toUpper) line other) :
    lineText line = lineText other := by
  unfold lineText
  induction same with
  | nil => rfl
  | @cons char image rest otherRest first _ ih =>
    have ending : (char != ';') = (image != ';') := by
      rw [Bool.eq_iff_iff, bne_iff_ne, bne_iff_ne, not_iff_not]
      constructor
      · rintro rfl
        exact Text.eq_semicolon_of_toUpper first.symm
      · rintro rfl
        exact Text.eq_semicolon_of_toUpper first
    rw [List.takeWhile_cons, List.takeWhile_cons, ending]
    split
    · rw [Text.upper_cons, Text.upper_cons, Text.upperChar_congr first, ih]
    · rfl

/-- What ends a word still does so in upper case and without a comment. -/
theorem endsWord_lineText {rest : List Char} (ends : Text.EndsWord rest) :
    Text.EndsWord (lineText rest) := by
  have front : Text.EndsWord (rest.takeWhile (· != ';')) := by
    cases rest with
    | nil => exact ends
    | cons char behind =>
      rw [List.takeWhile_cons]
      split
      · exact ends
      · rintro _ ⟨⟩
  exact front.upper

/-- White space is taken out of what stands in front of a comment as it is taken out of the line. -/
theorem squeeze_lineText (rest : List Char) :
    Text.squeeze (lineText rest) = lineText (Text.squeeze rest) := by
  have stops : ∀ char : Char, (!(!Text.isBlank char) || char != ';') = (char != ';') := by
    intro char
    rw [Bool.not_not, Bool.or_eq_right_iff_imp, bne_iff_ne]
    rintro blank rfl
    cases blank
  unfold lineText
  rw [Text.squeeze_upper, Text.squeeze, Text.squeeze, List.takeWhile_filter]
  simp only [stops]

end Front

/-- A change of style leaves the word and the field of a line. -/
theorem Restyled.fields_eq {line other : List Char} (restyled : Restyled line other) :
    lineWord line = lineWord other ∧ lineField line = lineField other := by
  unfold lineWord lineField
  cases restyled with
  | recased same =>
    rw [lineText_recased same]
    exact ⟨rfl, rfl⟩
  | commented _ comment =>
    unfold lineText
    rw [takeWhile_append_comment]
    exact ⟨rfl, rfl⟩
  | @indented lead blank _ =>
    have plain : ';' ∉ lead := fun inside => Bool.false_ne_true (blank ';' inside)
    have parts := Text.firstWord_blank_append ((Text.blank_upper_iff lead).mpr blank)
      (lineText line)
    rw [lineText_append plain, parts.1, parts.2]
    exact ⟨rfl, rfl⟩
  | @spaced word rest other occupied solid plain ends otherEnds same =>
    have upperCase := Text.upper_ne_nil occupied
    have parts := Text.firstWord_append upperCase solid.upper (endsWord_lineText ends)
    have otherParts := Text.firstWord_append upperCase solid.upper (endsWord_lineText otherEnds)
    rw [lineText_append plain, lineText_append plain, parts.1, parts.2, otherParts.1, otherParts.2,
      squeeze_lineText, squeeze_lineText, same]
    exact ⟨rfl, rfl⟩

/-- Lines that differ in style only have the same word and the same field. -/
theorem fields_eq_of_restyled {line other : List Char}
    (restyled : Relation.EqvGen Restyled line other) :
    lineWord line = lineWord other ∧ lineField line = lineField other := by
  induction restyled with
  | rel _ _ once => exact once.fields_eq
  | refl _ => exact ⟨rfl, rfl⟩
  | symm _ _ _ ih => exact ⟨ih.1.symm, ih.2.symm⟩
  | trans _ _ _ _ _ first second =>
    exact ⟨first.1.trans second.1, first.2.trans second.2⟩

end Statement

end Z80Monitor
