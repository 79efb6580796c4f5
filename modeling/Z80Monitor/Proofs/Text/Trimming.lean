import Z80Monitor.Proofs.Text.Fields
import Z80Monitor.Text.Hexadecimal

/-!
# White space behind texts

White space behind a text is trimmed, and a text that does not end in any is what stays. Trimming
takes away neither a word nor anything in front of one.
-/

namespace Z80Monitor.Text

/-- A text that does not end in white space. -/
def EndsSolid (text : List Char) : Prop := ∀ char ∈ text.getLast?, isBlank char = false

/-- A text that ends in one without white space. -/
theorem endsSolid_append (front : List Char) {rear : List Char} (occupied : rear ≠ [])
    (solid : Solid rear) : EndsSolid (front ++ rear) := by
  intro char last
  rw [List.getLast?_append, List.getLast?_eq_some_getLast occupied, Option.some_or] at last
  obtain rfl := Option.some.inj last
  exact solid _ (List.getLast_mem occupied)

/-- White space behind a text that does not end in any is trimmed. -/
theorem EndsSolid.trimEndBy_append {text trail : List Char} (solid : EndsSolid text)
    (blank : Blank trail) : trimEndBy isBlank (text ++ trail) = text := by
  have turned : ∀ char ∈ trail.reverse, isBlank char = true :=
    fun char inside => blank char (List.mem_reverse.mp inside)
  have front : ∀ char ∈ text.reverse.head?, isBlank char = false := by
    rwa [List.head?_reverse]
  rw [trimEndBy, List.reverse_append, List.dropWhile_append_of_pos turned,
    dropWhile_of_head? front, List.reverse_reverse]

/-- A run of spaces is blank. -/
theorem blank_replicate (count : Nat) : Blank (List.replicate count ' ') := by
  intro char inside
  rw [(List.mem_replicate.mp inside).2]
  decide

/-- Trimming the end of a text takes no words away. -/
theorem words_trimEndBy (text : List Char) : words (trimEndBy isBlank text) = words text := by
  have blank : Blank (text.reverse.takeWhile isBlank).reverse :=
    fun char inside => List.mem_takeWhile_imp (List.mem_reverse.mp inside)
  have parts : text = trimEndBy isBlank text ++ (text.reverse.takeWhile isBlank).reverse := by
    rw [trimEndBy, ← List.reverse_append, List.takeWhile_append_dropWhile, List.reverse_reverse]
  have kept := wordsAfter_append_blank [] (trimEndBy isBlank text) blank
  rw [← parts] at kept
  exact kept.symm

/-- Trimming the end of a text does not reach beyond a part with a word. -/
theorem trimEndBy_append (front : List Char) {rear : List Char} (written : ¬Blank rear) :
    trimEndBy isBlank (front ++ rear) = front ++ trimEndBy isBlank rear := by
  have stays : ¬(rear.reverse.dropWhile isBlank).isEmpty = true := by
    rw [List.isEmpty_iff]
    intro dropped
    have none := words_trimEndBy rear
    rw [trimEndBy, dropped] at none
    exact written ((words_eq_nil_iff rear).mp none.symm)
  rw [trimEndBy, List.reverse_append, List.dropWhile_append, if_neg stays,
    List.reverse_append, List.reverse_reverse, ← trimEndBy]

/-- A digit is no white space. -/
theorem isBlank_of_isDigit {char : Char} (digit : char.isDigit = true) :
    isBlank char = false := by
  rw [Char.isDigit, Bool.and_eq_true, decide_eq_true_eq, decide_eq_true_eq] at digit
  have least : 48 ≤ char.toNat := UInt32.le_iff_toNat_le.mp digit.1
  have greatest : char.toNat ≤ 57 := UInt32.le_iff_toNat_le.mp digit.2
  rw [← Bool.not_eq_true, isBlank_iff]
  simp only [blankCodes, List.mem_append, List.mem_range'_1, List.mem_cons, List.not_mem_nil,
    or_false]
  omega

/-- What is written of an integer in base 10 is a word. -/
theorem solid_decimal (value : Int) : decimal value ≠ [] ∧ Solid (decimal value) := by
  refine ⟨List.append_ne_nil_of_right_ne_nil _ Nat.toDigits_ne_nil, ?_⟩
  intro char inside
  rcases List.mem_append.mp inside with sign | written
  · unfold signOf at sign
    split at sign
    · rw [List.mem_singleton.mp sign]
      decide
    · cases sign
  · exact isBlank_of_isDigit (Nat.isDigit_of_mem_toDigits (by decide) (by decide) written)

end Z80Monitor.Text
