/-!
# Pieces of a text

A text is cut at every occurrence of a mark. Joining texts by the mark joins their pieces. In
messages, texts in order are joined by commas.
-/

namespace Z80Monitor.Text

variable {Symbol : Type}

/-- Texts with a comma and a space between them. -/
def commaList (texts : List (List Char)) : List Char := [',', ' '].intercalate texts

/-- Put a symbol in front of the first piece. -/
def prepend (symbol : Symbol) : List (List Symbol) → List (List Symbol)
  | [] => [[symbol]]
  | piece :: rest => (symbol :: piece) :: rest

/-- The pieces of a text between the occurrences of a mark; at least one. -/
def splitOn [DecidableEq Symbol] (mark : Symbol) (text : List Symbol) : List (List Symbol) :=
  text.foldr
    (fun symbol pieces => if symbol = mark then [] :: pieces else prepend symbol pieces) [[]]

/-- The empty text is one empty piece. -/
@[simp] theorem splitOn_nil [DecidableEq Symbol] (mark : Symbol) : splitOn mark [] = [[]] := rfl

/-- The mark ends a piece, and any other symbol belongs to one. -/
theorem splitOn_cons [DecidableEq Symbol] (mark symbol : Symbol) (rest : List Symbol) :
    splitOn mark (symbol :: rest) =
      if symbol = mark then [] :: splitOn mark rest
      else prepend symbol (splitOn mark rest) := rfl

/-- There is always a piece. -/
theorem splitOn_ne_nil [DecidableEq Symbol] (mark : Symbol) (text : List Symbol) :
    splitOn mark text ≠ [] := by
  induction text with
  | nil => simp
  | cons symbol rest ih =>
    rw [splitOn_cons]
    split
    · simp
    · cases h : splitOn mark rest with
      | nil => exact absurd h ih
      | cons => simp [prepend]

/-- Joining two texts by the mark joins their pieces. -/
theorem splitOn_append_mark [DecidableEq Symbol] (mark : Symbol) (left right : List Symbol) :
    splitOn mark (left ++ mark :: right) = splitOn mark left ++ splitOn mark right := by
  induction left with
  | nil => simp [splitOn_cons]
  | cons symbol rest ih =>
    rw [List.cons_append, splitOn_cons, splitOn_cons, ih]
    split
    · rfl
    · cases h : splitOn mark rest with
      | nil => exact absurd h (splitOn_ne_nil mark rest)
      | cons => rfl

end Z80Monitor.Text
