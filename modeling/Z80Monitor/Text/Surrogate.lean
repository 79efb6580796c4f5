import Z80Monitor.Text.Case
import Z80Monitor.Text.Quoted

/-!
# Texts with surrogates

A surrogate is a code point that is half of a character in UTF-16 and no character by itself. An
escape in a quoted text can give one, and then the text is no string. Such a text is read, put in
lower case and quoted like any other; a surrogate is always written as an escape.
-/

namespace Z80Monitor.Text

/-- A code point. -/
inductive CodePoint where
  /-- A character. -/
  | char (value : Char)
  /-- The surrogate with a number, counted from the first one. -/
  | surrogate (index : Fin 0x800)
  deriving DecidableEq, Repr

namespace CodePoint

/-- The code point with a number. -/
def ofNat? (code : Nat) : Option CodePoint :=
  if between : 0xD800 ≤ code ∧ code < 0xE000 then
    some (.surrogate ⟨code - 0xD800, by omega⟩)
  else if code < 0x110000 then some (.char (Char.ofNat code))
  else none

/-- A character that is read like the code point: the replacement character for a surrogate, which
is no digit, no blank and no letter either. -/
def standIn : CodePoint → Char
  | .char value => value
  | .surrogate _ => Char.ofNat 0xFFFD

/-- The escape of a surrogate. -/
def escapeOf (index : Fin 0x800) : List Char := ['\\', 'u'] ++ fixedHex 4 (0xD800 + index.val)

/-- A code point as it is shown: a surrogate as an escape. -/
def shown : CodePoint → List Char
  | .char value => [value]
  | .surrogate index => escapeOf index

/-- A code point inside quotation marks. -/
def quoted (mark : Char) : CodePoint → List Char
  | .char value => quotedChar mark value
  | .surrogate index => escapeOf index

/-- The character that a code point is, if it is one. -/
def char? : CodePoint → Option Char
  | .char value => some value
  | .surrogate _ => none

end CodePoint

/-- The code points of characters. -/
def points (text : List Char) : List CodePoint := text.map .char

/-- The characters of a text, if it holds no surrogate. -/
def characters? (text : List CodePoint) : Option (List Char) := text.mapM CodePoint.char?

/-- Characters that are read like the code points of a text. -/
def standIns (text : List CodePoint) : List Char := text.map CodePoint.standIn

/-- A text as it is shown. -/
def shownPoints (text : List CodePoint) : List Char := text.flatMap CodePoint.shown

/-- A text in quotation marks. -/
def quotedPoints (text : List CodePoint) : List Char :=
  let mark := quotationMark (standIns text)
  [mark] ++ text.flatMap (CodePoint.quoted mark) ++ [mark]

/-- The lower case of a text, where `run` holds the characters behind the last surrogate, last
first. A surrogate ends a word. -/
def lowerPointsBehind (run : List Char) : List CodePoint → List CodePoint
  | [] => points (lower run.reverse)
  | .char value :: rest => lowerPointsBehind (value :: run) rest
  | .surrogate index :: rest =>
    points (lower run.reverse) ++ .surrogate index :: lowerPointsBehind [] rest

/-- The lower case of a text. -/
def lowerPoints (text : List CodePoint) : List CodePoint := lowerPointsBehind [] text

/-- The characters of a text without surrogates are those it is made of. -/
@[simp] theorem characters?_points (text : List Char) : characters? (points text) = some text := by
  induction text with
  | nil => rfl
  | cons char rest ih =>
    simp only [points, characters?, List.map_cons, List.mapM_cons] at ih ⊢
    simp [ih, CodePoint.char?]

end Z80Monitor.Text
