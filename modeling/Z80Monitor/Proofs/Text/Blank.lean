import Z80Monitor.Proofs.Text.Words
import Z80Monitor.Text.Case

/-!
# Blank texts

A text is blank when it holds nothing but white space. It has no words then, trimming leaves
nothing of it, and neither trimming nor upper case makes a text blank that is not: no character
has white space in its upper case unless it is white space itself.
-/

namespace Z80Monitor.Text

/-- A text of white space. -/
def Blank (text : List Char) : Prop := ∀ char ∈ text, isBlank char = true

instance (text : List Char) : Decidable (Blank text) :=
  List.decidableBAll (isBlank · = true) text

/-- The first character decides, and then the others. -/
theorem blank_cons_iff {char : Char} {rest : List Char} :
    Blank (char :: rest) ↔ isBlank char = true ∧ Blank rest := List.forall_mem_cons

/-- A text that an unfinished word stands in front of has a word. -/
theorem wordsAfter_ne_nil {word : List Char} (occupied : word ≠ []) (text : List Char) :
    wordsAfter word text ≠ [] := by
  induction text generalizing word with
  | nil =>
    rw [wordsAfter_nil occupied]
    exact List.cons_ne_nil _ _
  | cons char rest ih =>
    have finished : ¬word.isEmpty = true := by rwa [List.isEmpty_iff]
    rw [wordsAfter, if_neg finished]
    split
    · exact List.cons_ne_nil _ _
    · exact ih (List.cons_ne_nil char word)

/-- A text has no words where it is blank. -/
theorem words_eq_nil_iff (text : List Char) : words text = [] ↔ Blank text := by
  induction text with
  | nil => exact ⟨fun _ _ inside => absurd inside List.not_mem_nil, fun _ => rfl⟩
  | cons char rest ih =>
    rw [blank_cons_iff, words, wordsAfter]
    cases blank : isBlank char with
    | true =>
      rw [if_pos rfl, if_pos List.isEmpty_nil, eq_self, true_and]
      exact ih
    | false =>
      rw [if_neg Bool.false_ne_true]
      constructor
      · intro none
        exact absurd none (wordsAfter_ne_nil (List.cons_ne_nil char []) rest)
      · rintro ⟨absent, _⟩
        cases absent

/-- White space that is dropped in front does not matter. -/
theorem blank_dropWhile_iff (text : List Char) : Blank (text.dropWhile isBlank) ↔ Blank text := by
  induction text with
  | nil => rfl
  | cons char rest ih =>
    rw [List.dropWhile_cons]
    cases blank : isBlank char with
    | true =>
      rw [if_pos rfl, ih, blank_cons_iff]
      exact ⟨fun behind => ⟨blank, behind⟩, And.right⟩
    | false => rw [if_neg Bool.false_ne_true]

/-- White space that is trimmed does not matter. -/
theorem blank_trim_iff (text : List Char) : Blank (trim text) ↔ Blank text := by
  have reversed (other : List Char) : Blank other.reverse ↔ Blank other := by
    unfold Blank
    simp only [List.mem_reverse]
  unfold trim trimBy trimEndBy
  rw [reversed, blank_dropWhile_iff, reversed, blank_dropWhile_iff]

/-- The code points of white space. -/
def blankCodes : List Nat :=
  List.range' 0x09 5 ++ List.range' 0x1C 5 ++ [0x85, 0xA0, 0x1680] ++ List.range' 0x2000 11 ++
    [0x2028, 0x2029, 0x202F, 0x205F, 0x3000]

/-- White space is told by its code points. -/
theorem isBlank_iff (char : Char) : isBlank char = true ↔ char.toNat ∈ blankCodes := by
  simp only [isBlank, blankCodes, Bool.or_eq_true, Bool.and_eq_true, decide_eq_true_eq, beq_iff_eq,
    List.mem_append, List.mem_range'_1, List.mem_cons, List.not_mem_nil, or_false]
  omega

/-- The upper case of white space is white space. -/
theorem blank_upperChar {char : Char} (blank : isBlank char = true) : Blank (upperChar char) := by
  have each : ∀ code ∈ blankCodes, (upperChar (Char.ofNat code)).all isBlank = true := by
    decide +kernel
  have found := each char.toNat ((isBlank_iff char).mp blank)
  rw [Char.ofNat_toNat] at found
  exact List.all_eq_true.mp found

/-- A number that is no code point of white space gives no white space. -/
theorem isBlank_ofNat_of_not_mem {code : Nat} (apart : code ∉ blankCodes) :
    isBlank (Char.ofNat code) = false := by
  by_cases valid : code.isValidChar
  · have same : (Char.ofNat code).toNat = code := by
      rw [Char.ofNat, dif_pos valid]
      rfl
    rw [Bool.eq_false_iff, ne_eq, isBlank_iff, same]
    exact apart
  · rw [Char.ofNat, dif_neg valid]
    decide

/-- No run of the upper-case mapping leads to white space. -/
theorem not_mem_blankCodes_of_run {run : CaseRun} (listed : run ∈ upperRuns) {code : Nat}
    (contained : run.contains code = true) : (code + run.offset).toNat ∉ blankCodes := by
  have apart : ∀ run ∈ upperRuns, (0 : Int) < run.first + run.offset ∧ ∀ blank ∈ blankCodes,
      (blank : Int) < run.first + run.offset ∨ run.last + run.offset < (blank : Int) := by
    decide +kernel
  obtain ⟨positive, sides⟩ := apart run listed
  simp only [CaseRun.contains, Bool.and_eq_true, decide_eq_true_eq] at contained
  obtain ⟨⟨above, below⟩, _⟩ := contained
  intro reached
  rcases sides _ reached with before | behind <;> omega

/-- A code point that is not white space is not mapped to white space. -/
theorem not_mem_blankCodes_mapCode {code : Nat} (apart : code ∉ blankCodes) :
    mapCode upperRuns code ∉ blankCodes := by
  unfold mapCode
  split
  · rename_i run found
    have contained := List.find?_some found
    exact not_mem_blankCodes_of_run (List.mem_of_find?_eq_some found) contained
  · exact apart

/-- What is looked up in a list is one of its entries. -/
theorem mem_of_lookup {Value : Type} {entries : List (Nat × Value)} {key : Nat} {value : Value}
    (found : entries.lookup key = some value) : (key, value) ∈ entries := by
  obtain ⟨front, behind, parts, _⟩ := List.lookup_eq_some_iff.mp found
  rw [parts]
  exact List.mem_append_right front List.mem_cons_self

/-- The upper case of a character that is not white space holds none. -/
theorem solid_upperChar {char : Char} (solid : isBlank char = false) : Solid (upperChar char) := by
  have apart : char.toNat ∉ blankCodes := by
    rw [← isBlank_iff, solid]
    exact Bool.false_ne_true
  unfold upperChar
  split
  · rename_i ascii
    have each : ∀ code < 128, code ∉ blankCodes → isBlank (Char.ofNat code).toUpper = false := by
      decide +kernel
    have found := each char.toNat ascii apart
    rw [Char.ofNat_toNat] at found
    intro image inside
    rwa [List.mem_singleton.mp inside]
  · split
    · rename_i codes expanded
      have each : ∀ entry ∈ upperExpansions, ∀ code ∈ entry.2, code ∉ blankCodes := by
        decide +kernel
      intro image inside
      obtain ⟨code, member, rfl⟩ := List.mem_map.mp inside
      exact isBlank_ofNat_of_not_mem (each _ (mem_of_lookup expanded) code member)
    · intro image inside
      rw [List.mem_singleton.mp inside]
      exact isBlank_ofNat_of_not_mem (not_mem_blankCodes_mapCode apart)

/-- Every character has an upper case. -/
theorem upperChar_ne_nil (char : Char) : upperChar char ≠ [] := by
  unfold upperChar
  split
  · exact List.cons_ne_nil _ _
  · split
    · rename_i codes expanded
      have each : ∀ entry ∈ upperExpansions, entry.2 ≠ [] := by decide +kernel
      exact fun none => each _ (mem_of_lookup expanded) (List.map_eq_nil_iff.mp none)
    · exact List.cons_ne_nil _ _

/-- The upper case of a character that is not white space is no white space. -/
theorem not_blank_upperChar {char : Char} (solid : isBlank char = false) :
    ¬Blank (upperChar char) := by
  intro blank
  have first := List.head_mem (upperChar_ne_nil char)
  have apart := solid_upperChar solid _ first
  rw [blank _ first] at apart
  cases apart

/-- The upper case of a text is blank where the text is. -/
theorem blank_upper_iff (text : List Char) : Blank (upper text) ↔ Blank text := by
  unfold upper Blank
  rw [List.forall_mem_flatMap]
  constructor
  · intro blank char inside
    cases solid : isBlank char with
    | true => rfl
    | false => exact absurd (blank char inside) (not_blank_upperChar solid)
  · intro blank char inside
    exact blank_upperChar (blank char inside)

end Z80Monitor.Text
