import Z80Monitor.Text.CaseTable
import Z80Monitor.Text.CasedTable

/-!
# Upper and lower case

Full case mappings: one character may become several, and a capital sigma becomes the final
small sigma at the end of a word. On ASCII text both mappings work letter by letter.
-/

namespace Z80Monitor.Text

/-- The upper case of one character. -/
def upperChar (char : Char) : List Char :=
  if char.toNat < 128 then [char.toUpper]
  else match upperExpansions.lookup char.toNat with
    | some codes => codes.map Char.ofNat
    | none => [Char.ofNat (mapCode upperRuns char.toNat)]

/-- The upper case of a text. -/
def upper (text : List Char) : List Char := text.flatMap upperChar

/-- The lower case of one character, wherever it stands. -/
def lowerChar (char : Char) : List Char :=
  if char.toNat < 128 then [char.toLower]
  else if char.toNat == 0x130 then ['i', Char.ofNat 0x307]
  else [Char.ofNat (mapCode lowerRuns char.toNat)]

/-- Whether the first character that is not case-ignorable has case. -/
def meetsCased (text : List Char) : Bool :=
  match text.dropWhile isCaseIgnorable with
  | [] => false
  | char :: _ => isCased char

/-- The lower case of `text`, where `before` holds the characters in front of it, last first. -/
def lowerAfter (before : List Char) : List Char → List Char
  | [] => []
  | char :: rest =>
    let image :=
      if char.toNat == 0x3A3 && meetsCased before && !meetsCased rest then [Char.ofNat 0x3C2]
      else lowerChar char
    image ++ lowerAfter (char :: before) rest

/-- The lower case of a text. -/
def lower (text : List Char) : List Char := lowerAfter [] text

/-- The upper case of a string. -/
def upperString (text : String) : String := String.ofList (upper text.toList)

/-- The lower case of a string. -/
def lowerString (text : String) : String := String.ofList (lower text.toList)

/-- The empty text has no upper case. -/
@[simp] theorem upper_nil : upper [] = [] := rfl

/-- Upper case works character by character. -/
@[simp] theorem upper_append (left right : List Char) :
    upper (left ++ right) = upper left ++ upper right := by
  simp [upper]

/-- An ASCII character has one character as its upper case. -/
theorem upperChar_of_lt {char : Char} (ascii : char.toNat < 128) :
    upperChar char = [char.toUpper] := by
  simp [upperChar, ascii]

end Z80Monitor.Text
