/-!
# Blank characters

The white space of Unicode, with the four ASCII information separators: what is trimmed from a
line and what separates its words.
-/

namespace Z80Monitor.Text

/-- Whether a character is white space. -/
def isBlank (char : Char) : Bool :=
  let code := char.toNat
  (0x09 ≤ code && code ≤ 0x0D) || (0x1C ≤ code && code ≤ 0x20) || code == 0x85 || code == 0xA0 ||
    code == 0x1680 || (0x2000 ≤ code && code ≤ 0x200A) || code == 0x2028 || code == 0x2029 ||
    code == 0x202F || code == 0x205F || code == 0x3000

/-- The text without the characters of a class at its end. -/
def trimEndBy (drops : Char → Bool) (text : List Char) : List Char :=
  (text.reverse.dropWhile drops).reverse

/-- The text without the characters of a class at either end. -/
def trimBy (drops : Char → Bool) (text : List Char) : List Char :=
  trimEndBy drops (text.dropWhile drops)

/-- The text without blanks at either end. -/
def trim (text : List Char) : List Char := trimBy isBlank text

/-- The words of a text, where `word` holds the letters of an unfinished word, last first. -/
def wordsAfter (word : List Char) : List Char → List (List Char)
  | [] => if word.isEmpty then [] else [word.reverse]
  | char :: rest =>
    if isBlank char then
      if word.isEmpty then wordsAfter [] rest else word.reverse :: wordsAfter [] rest
    else wordsAfter (char :: word) rest

/-- The longest runs of characters that are not blank, in order. -/
def words (text : List Char) : List (List Char) := wordsAfter [] text

end Z80Monitor.Text
