import Z80Monitor.Text.Blank
import Z80Monitor.Text.Pieces

/-!
# Joining and taking apart

Texts that are joined are found again as the pieces, or as the words, of what they are joined to,
as long as none of them holds what they are joined by. A text whose ends are not blank is trimmed
already.
-/

namespace Z80Monitor.Text

section Pieces

variable {Symbol : Type} [DecidableEq Symbol] {mark : Symbol}

/-- A text without the mark is its only piece. -/
theorem splitOn_of_not_mem {text : List Symbol} (absent : mark ∉ text) :
    splitOn mark text = [text] := by
  induction text with
  | nil => rfl
  | cons symbol rest ih =>
    have apart : symbol ≠ mark := fun same => absent (same ▸ List.mem_cons_self)
    have behind : mark ∉ rest := fun inside => absent (List.mem_cons_of_mem symbol inside)
    rw [splitOn_cons, if_neg apart, ih behind]
    rfl

/-- Texts that are joined by the mark are the pieces of what they are joined to. -/
theorem splitOn_intercalate {pieces : List (List Symbol)} (occupied : pieces ≠ [])
    (absent : ∀ piece ∈ pieces, mark ∉ piece) :
    splitOn mark ([mark].intercalate pieces) = pieces := by
  induction pieces with
  | nil => exact absurd rfl occupied
  | cons piece rest ih =>
    have first := splitOn_of_not_mem (absent piece List.mem_cons_self)
    cases rest with
    | nil =>
      rw [List.intercalate_singleton]
      exact first
    | cons next rest =>
      have behind := ih (List.cons_ne_nil next rest)
        fun other inside => absent other (List.mem_cons_of_mem piece inside)
      rw [List.intercalate_cons_cons, List.append_assoc, List.singleton_append,
        splitOn_append_mark, first, behind]
      rfl

/-- A text is its pieces, joined by the mark. -/
theorem intercalate_splitOn (text : List Symbol) :
    [mark].intercalate (splitOn mark text) = text := by
  induction text with
  | nil => rfl
  | cons symbol rest ih =>
    rw [splitOn_cons]
    obtain ⟨piece, behind, pieces⟩ := List.exists_cons_of_ne_nil (splitOn_ne_nil mark rest)
    rw [pieces] at ih ⊢
    split
    · rename_i same
      rw [List.intercalate_cons_cons, ih, same]
      rfl
    · cases behind with
      | nil =>
        rw [List.intercalate_singleton] at ih
        rw [prepend, List.intercalate_singleton, ih]
      | cons next behind =>
        rw [List.intercalate_cons_cons] at ih
        rw [prepend, List.intercalate_cons_cons, List.cons_append, List.cons_append, ih]

end Pieces

/-- A text without blanks. -/
def Solid (text : List Char) : Prop := ∀ char ∈ text, isBlank char = false

instance (text : List Char) : Decidable (Solid text) :=
  List.decidableBAll (isBlank · = false) text

/-- Solid characters go on with an unfinished word. -/
theorem Solid.wordsAfter_append {run : List Char} (solid : Solid run) (word rest : List Char) :
    wordsAfter word (run ++ rest) = wordsAfter (run.reverse ++ word) rest := by
  induction run generalizing word with
  | nil => rfl
  | cons char run ih =>
    have first : isBlank char = false := solid char List.mem_cons_self
    have behind : Solid run := fun other inside => solid other (List.mem_cons_of_mem char inside)
    rw [List.cons_append, wordsAfter, first, if_neg Bool.false_ne_true, ih behind,
      List.reverse_cons, List.append_assoc, List.singleton_append]

/-- A word that is not finished where the text ends is the last one. -/
theorem wordsAfter_nil {word : List Char} (occupied : word ≠ []) :
    wordsAfter word [] = [word.reverse] := by
  rw [wordsAfter, if_neg (by rwa [List.isEmpty_iff])]

/-- White space finishes a word. -/
theorem wordsAfter_blank {word : List Char} (occupied : word ≠ []) {char : Char}
    (blank : isBlank char = true) (rest : List Char) :
    wordsAfter word (char :: rest) = word.reverse :: words rest := by
  rw [wordsAfter, if_pos blank, if_neg (by rwa [List.isEmpty_iff]), words]

/-- A word with a space behind it is the first one. -/
theorem words_append_space {word : List Char} (occupied : word ≠ []) (solid : Solid word)
    (rest : List Char) : words (word ++ ' ' :: rest) = word :: words rest := by
  have backwards : word.reverse ++ [] ≠ [] := by
    rwa [List.append_nil, ne_eq, List.reverse_eq_nil_iff]
  rw [words, solid.wordsAfter_append, wordsAfter_blank backwards (by decide), List.append_nil,
    List.reverse_reverse]

/-- A solid text is its only word. -/
theorem words_of_solid {word : List Char} (occupied : word ≠ []) (solid : Solid word) :
    words word = [word] := by
  have backwards : word.reverse ≠ [] := by rwa [ne_eq, List.reverse_eq_nil_iff]
  have read := solid.wordsAfter_append [] []
  rw [List.append_nil, List.append_nil] at read
  rw [words, read, wordsAfter_nil backwards, List.reverse_reverse]

/-- Solid texts that are joined by spaces are the words of what they are joined to. -/
theorem words_intercalate {pieces : List (List Char)}
    (solid : ∀ piece ∈ pieces, piece ≠ [] ∧ Solid piece) :
    words ([' '].intercalate pieces) = pieces := by
  induction pieces with
  | nil => rfl
  | cons piece rest ih =>
    obtain ⟨occupied, first⟩ := solid piece List.mem_cons_self
    cases rest with
    | nil => rw [List.intercalate_singleton, words_of_solid occupied first]
    | cons next rest =>
      have behind := ih fun other inside => solid other (List.mem_cons_of_mem piece inside)
      rw [List.intercalate_cons_cons, List.append_assoc, List.singleton_append,
        words_append_space occupied first, behind]

/-- A text is taken whole where every character is taken. -/
theorem takeWhile_eq_self {takes : Char → Bool} {text : List Char}
    (taken : ∀ char ∈ text, takes char = true) : text.takeWhile takes = text := by
  have whole : (text ++ []).takeWhile takes = text ++ [].takeWhile takes :=
    List.takeWhile_append_of_pos taken
  rwa [List.takeWhile_nil, List.append_nil] at whole

/-- Nothing is dropped from a text whose first character stays. -/
theorem dropWhile_of_head? {drops : Char → Bool} {text : List Char}
    (front : ∀ char ∈ text.head?, drops char = false) : text.dropWhile drops = text := by
  cases text with
  | nil => rfl
  | cons char rest =>
    have stays : drops char = false := front char rfl
    rw [List.dropWhile_cons, stays, if_neg Bool.false_ne_true]

/-- A text whose ends stay is not changed by trimming. -/
theorem trimBy_eq_self {drops : Char → Bool} {text : List Char}
    (front : ∀ char ∈ text.head?, drops char = false)
    (back : ∀ char ∈ text.getLast?, drops char = false) : trimBy drops text = text := by
  have backwards : text.reverse.dropWhile drops = text.reverse := by
    apply dropWhile_of_head?
    rwa [List.head?_reverse]
  rw [trimBy, dropWhile_of_head? front, trimEndBy, backwards, List.reverse_reverse]

end Z80Monitor.Text
