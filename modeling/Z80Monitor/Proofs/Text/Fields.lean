import Mathlib.Data.List.TakeWhile
import Z80Monitor.Proofs.Text.Blank

/-!
# The first word and the rest

A text is taken apart into its first word and what stands behind it, from which white space is
taken out. Both are found in the words of the text, white space around the text does not matter to
them, and upper case does not move white space.
-/

namespace Z80Monitor.Text

/-- The first word of a text; empty where the text is blank. -/
def firstWord (text : List Char) : List Char :=
  (text.dropWhile isBlank).takeWhile fun char => !isBlank char

/-- What stands behind the first word of a text. -/
def behindWord (text : List Char) : List Char :=
  (text.dropWhile isBlank).dropWhile fun char => !isBlank char

/-- A text without its white space. -/
def squeeze (text : List Char) : List Char := text.filter fun char => !isBlank char

/-- White space is taken out, and any other character stays. -/
theorem squeeze_cons (char : Char) (rest : List Char) :
    squeeze (char :: rest) = if isBlank char then squeeze rest else char :: squeeze rest := by
  unfold squeeze
  rw [List.filter_cons]
  cases isBlank char <;> rfl

section Words

/-- White space in front of a text adds no word. -/
theorem words_blank_append {lead : List Char} (blank : Blank lead) (text : List Char) :
    words (lead ++ text) = words text := by
  induction lead with
  | nil => rfl
  | cons char rest ih =>
    obtain ⟨first, behind⟩ := blank_cons_iff.mp blank
    rw [List.cons_append, words, wordsAfter, if_pos first, if_pos List.isEmpty_nil]
    exact ih behind

/-- White space behind a text finishes its last word as the end of the text does. -/
theorem wordsAfter_append_blank (word text : List Char) {trail : List Char} (blank : Blank trail) :
    wordsAfter word (text ++ trail) = wordsAfter word text := by
  induction text generalizing word with
  | nil =>
    cases trail with
    | nil => rfl
    | cons char rest =>
      obtain ⟨first, behind⟩ := blank_cons_iff.mp blank
      cases word with
      | nil => exact (words_eq_nil_iff (char :: rest)).mpr blank
      | cons letter word =>
        have occupied := List.cons_ne_nil letter word
        rw [List.nil_append, wordsAfter_blank occupied first, (words_eq_nil_iff rest).mpr behind,
          wordsAfter_nil occupied]
  | cons char rest ih => rw [List.cons_append, wordsAfter, wordsAfter, ih, ih]

/-- An unfinished word goes on up to white space. -/
theorem wordsAfter_eq_cons {word : List Char} (occupied : word ≠ []) (text : List Char) :
    wordsAfter word text =
      (word.reverse ++ text.takeWhile fun char => !isBlank char) ::
        words (text.dropWhile fun char => !isBlank char) := by
  induction text generalizing word with
  | nil =>
    rw [wordsAfter_nil occupied, List.takeWhile_nil, List.append_nil]
    rfl
  | cons char rest ih =>
    rw [List.takeWhile_cons, List.dropWhile_cons]
    cases blank : isBlank char with
    | true =>
      have skipped : words (char :: rest) = words rest :=
        words_blank_append (List.forall_mem_singleton.mpr blank) rest
      rw [wordsAfter_blank occupied blank, Bool.not_true, if_neg Bool.false_ne_true,
        if_neg Bool.false_ne_true, List.append_nil, skipped]
    | false =>
      rw [wordsAfter, blank, if_neg Bool.false_ne_true, ih (List.cons_ne_nil char word),
        Bool.not_false, if_pos rfl, if_pos rfl, List.reverse_cons, List.append_assoc,
        List.singleton_append]

/-- The words of a text are its first word and the words behind it. -/
theorem words_eq (text : List Char) :
    words text = if firstWord text = [] then [] else firstWord text :: words (behindWord text) := by
  unfold firstWord behindWord
  induction text with
  | nil => rfl
  | cons char rest ih =>
    rw [List.dropWhile_cons]
    cases blank : isBlank char with
    | true =>
      rw [if_pos rfl, ← ih]
      exact words_blank_append (List.forall_mem_singleton.mpr blank) rest
    | false =>
      rw [if_neg Bool.false_ne_true, List.takeWhile_cons, List.dropWhile_cons, blank,
        Bool.not_false, if_pos rfl, if_pos rfl, if_neg (List.cons_ne_nil _ _), words, wordsAfter,
        blank, if_neg Bool.false_ne_true, wordsAfter_eq_cons (List.cons_ne_nil char [])]
      rfl

/-- The words of a text hold all of it but white space, an unfinished word with them. -/
theorem flatten_wordsAfter (word text : List Char) :
    (wordsAfter word text).flatten = word.reverse ++ squeeze text := by
  induction text generalizing word with
  | nil =>
    rw [wordsAfter]
    split
    · rename_i empty
      rw [List.isEmpty_iff.mp empty]
      rfl
    · rfl
  | cons char rest ih =>
    rw [wordsAfter, squeeze_cons]
    cases blank : isBlank char with
    | true =>
      rw [if_pos rfl, if_pos rfl]
      split
      · rename_i empty
        rw [ih, List.isEmpty_iff.mp empty]
      · rw [List.flatten_cons, ih]
        rfl
    | false =>
      rw [if_neg Bool.false_ne_true, if_neg Bool.false_ne_true, ih, List.reverse_cons,
        List.append_assoc, List.singleton_append]

/-- The words of a text hold all of it but white space. -/
theorem flatten_words (text : List Char) : (words text).flatten = squeeze text :=
  flatten_wordsAfter [] text

/-- What is trimmed from a text is white space at its ends. -/
theorem exists_trim_eq (text : List Char) :
    ∃ lead trail, Blank lead ∧ Blank trail ∧ text = lead ++ trim text ++ trail := by
  have taken (other : List Char) : Blank (other.takeWhile isBlank) :=
    fun _ inside => List.mem_takeWhile_imp inside
  have turned : Blank ((text.dropWhile isBlank).reverse.takeWhile isBlank).reverse :=
    fun char inside => taken _ char (List.mem_reverse.mp inside)
  refine ⟨_, _, taken text, turned, ?_⟩
  rw [trim, trimBy, trimEndBy, List.append_assoc, ← List.reverse_append,
    List.takeWhile_append_dropWhile, List.reverse_reverse, List.takeWhile_append_dropWhile]

/-- White space at the ends of a text makes no words. -/
theorem words_upper_trim (text : List Char) : words (upper (trim text)) = words (upper text) := by
  obtain ⟨lead, trail, front, back, parts⟩ := exists_trim_eq text
  have around : upper text = upper lead ++ (upper (trim text) ++ upper trail) := by
    rw [← upper_append, ← upper_append, ← List.append_assoc, ← parts]
  rw [around, words_blank_append ((blank_upper_iff lead).mpr front), words, words,
    wordsAfter_append_blank _ _ ((blank_upper_iff trail).mpr back)]

end Words

section Parts

variable {word rest : List Char}

/-- White space in front of a text is in front of its first word. -/
theorem firstWord_blank_append {lead : List Char} (blank : Blank lead) (text : List Char) :
    firstWord (lead ++ text) = firstWord text ∧ behindWord (lead ++ text) = behindWord text := by
  unfold firstWord behindWord
  rw [List.dropWhile_append_of_pos blank]
  exact ⟨rfl, rfl⟩

/-- A text that ends a word: it is empty or begins with white space. -/
def EndsWord (rest : List Char) : Prop := ∀ char ∈ rest.head?, isBlank char = true

instance (rest : List Char) : Decidable (EndsWord rest) :=
  Option.decidableForallMem rest.head?

/-- A solid text in front of what ends a word is the first word, and the rest stands behind it. -/
theorem firstWord_append (occupied : word ≠ []) (solid : Solid word) (ends : EndsWord rest) :
    firstWord (word ++ rest) = word ∧ behindWord (word ++ rest) = rest := by
  have front : ∀ char ∈ (word ++ rest).head?, isBlank char = false := by
    obtain ⟨char, behind, rfl⟩ := List.exists_cons_of_ne_nil occupied
    rintro _ ⟨⟩
    exact solid char List.mem_cons_self
  have stays : ∀ char ∈ word, (!isBlank char) = true := by
    intro char inside
    rw [solid char inside, Bool.not_false]
  have stop : ∀ char ∈ rest.head?, (!isBlank char) = false := by
    intro char first
    rw [ends char first, Bool.not_true]
  unfold firstWord behindWord
  rw [dropWhile_of_head? front, List.takeWhile_append_of_pos stays,
    List.dropWhile_append_of_pos stays, dropWhile_of_head? stop]
  cases rest with
  | nil => exact ⟨List.append_nil word, rfl⟩
  | cons char rest =>
    rw [List.takeWhile_cons, stop char rfl, if_neg Bool.false_ne_true, List.append_nil]
    exact ⟨rfl, rfl⟩

end Parts

section UpperCase

/-- The upper case of a first character and of the rest. -/
theorem upper_cons (char : Char) (rest : List Char) :
    upper (char :: rest) = upperChar char ++ upper rest := List.flatMap_cons

/-- The upper case of a text without white space has none. -/
theorem Solid.upper {text : List Char} (solid : Solid text) : Solid (upper text) := by
  intro image inside
  obtain ⟨char, member, found⟩ := List.mem_flatMap.mp inside
  exact solid_upperChar (solid char member) image found

/-- Only the empty text has an empty upper case. -/
theorem upper_ne_nil {text : List Char} (occupied : text ≠ []) : Text.upper text ≠ [] := by
  obtain ⟨char, rest, rfl⟩ := List.exists_cons_of_ne_nil occupied
  rw [upper_cons]
  exact List.append_ne_nil_of_left_ne_nil (upperChar_ne_nil char) _

/-- What ends a word still does so in upper case. -/
theorem EndsWord.upper {rest : List Char} (ends : EndsWord rest) : EndsWord (upper rest) := by
  cases rest with
  | nil => exact ends
  | cons char behind =>
    have blank := blank_upperChar (ends char rfl)
    obtain ⟨first, others, image⟩ := List.exists_cons_of_ne_nil (upperChar_ne_nil char)
    rw [image] at blank
    rw [upper_cons, image]
    rintro _ ⟨⟩
    exact blank first List.mem_cons_self

/-- The upper case of a text has white space where the text has. -/
theorem squeeze_upper (text : List Char) : squeeze (upper text) = upper (squeeze text) := by
  induction text with
  | nil => rfl
  | cons char rest ih =>
    rw [upper_cons, squeeze, List.filter_append, ← squeeze, ← squeeze, ih, squeeze_cons]
    cases blank : isBlank char with
    | true =>
      have none : squeeze (upperChar char) = [] := by
        rw [squeeze, List.filter_eq_nil_iff]
        intro other inside
        rw [blank_upperChar blank other inside]
        exact Bool.false_ne_true
      rw [none, if_pos rfl, List.nil_append]
    | false =>
      have whole : squeeze (upperChar char) = upperChar char := by
        rw [squeeze, List.filter_eq_self]
        intro other inside
        rw [solid_upperChar blank other inside, Bool.not_false]
      rw [whole, if_neg Bool.false_ne_true, upper_cons]

end UpperCase

end Z80Monitor.Text
