import Z80Monitor.Text.LineEnd
import Z80Monitor.Text.Numeral
import Z80Monitor.Text.Pieces
import Z80Monitor.Yaml.Timestamp

/-!
# Tags of YAML 1.1

What kind of value a node is. A tag can be written; otherwise that of a text without quotation
marks follows from its form: nothing, a truth value, an integer, a floating-point number, a
timestamp, or text. Integers may be written in base 2, 8, 10, 16 or 60 and floating-point numbers
in base 10 or 60; underscores between digits do not count.
-/

namespace Z80Monitor.Yaml

/-- The tags that a node can have. -/
inductive Tag where
  /-- A text. -/
  | str
  /-- Nothing. -/
  | null
  /-- A truth value. -/
  | bool
  /-- An integer. -/
  | int
  /-- A floating-point number. -/
  | float
  /-- Bytes. -/
  | binary
  /-- A day or a moment. -/
  | timestamp
  /-- A list. -/
  | seq
  /-- A mapping. -/
  | map
  /-- A list of entries whose keys differ. -/
  | omap
  /-- A list of entries. -/
  | pairs
  /-- A set. -/
  | set
  /-- The key under which other mappings are merged. -/
  | merge
  /-- The key of a default value. -/
  | value
  /-- Any other tag. -/
  | other
  deriving DecidableEq, Repr

/-- What all tags of the format begin with. -/
def standardTags : List Char := "tag:yaml.org,2002:".toList

/-- The tag with a name written in full. -/
def Tag.ofName (name : List Char) : Tag :=
  let known : List (String × Tag) :=
    [("str", .str), ("null", .null), ("bool", .bool), ("int", .int), ("float", .float),
      ("binary", .binary), ("timestamp", .timestamp), ("seq", .seq), ("map", .map),
      ("omap", .omap), ("pairs", .pairs), ("set", .set), ("merge", .merge), ("value", .value)]
  match known.find? fun entry => standardTags ++ entry.1.toList == name with
  | some (_, tag) => tag
  | none => .other

/-- Whether the nodes of a tag are scalars. -/
def Tag.isScalar (tag : Tag) : Bool :=
  [Tag.str, .null, .bool, .int, .float, .binary, .timestamp].contains tag

/-- Whether the nodes of a tag are collections. -/
def Tag.isCollection (tag : Tag) : Bool :=
  [Tag.seq, .map, .omap, .pairs, .set].contains tag

/-- The spellings of true. -/
def trueWords : List String :=
  ["yes", "Yes", "YES", "true", "True", "TRUE", "on", "On", "ON"]

/-- The spellings of false. -/
def falseWords : List String :=
  ["no", "No", "NO", "false", "False", "FALSE", "off", "Off", "OFF"]

/-- The spellings of nothing. -/
def nullWords : List String := ["", "~", "null", "Null", "NULL"]

/-- The spellings of infinity behind the sign. -/
def infinityWords : List String := [".inf", ".Inf", ".INF"]

/-- The spellings of what is not a number. -/
def nanWords : List String := [".nan", ".NaN", ".NAN"]

/-- Whether a character is a digit below a base or an underscore. -/
def isDigitIn (base : Nat) (char : Char) : Bool :=
  char == '_' || (match Text.digitValue? char with
    | some value => value < base
    | none => false)

/-- A text without a sign in front of it. -/
def unsigned : List Char → List Char
  | '-' :: rest => rest
  | '+' :: rest => rest
  | text => text

/-- Whether a text is a place of a number in base 60: one digit, or two below 60. -/
def isSexagesimal : List Char → Bool
  | [digit] => digit.isDigit
  | [tens, digit] => '0' ≤ tens && tens ≤ '5' && digit.isDigit
  | _ => false

/-- Whether a text is a run of digits and underscores that starts with a digit. -/
def isDigitRun : List Char → Bool
  | [] => false
  | first :: rest => first.isDigit && rest.all (isDigitIn 10)

/-- Whether a text starts with a digit other than zero and goes on with digits and
underscores. -/
def isCountingRun : List Char → Bool
  | [] => false
  | first :: rest => '1' ≤ first && first ≤ '9' && rest.all (isDigitIn 10)

/-- Whether a text without a sign is an integer. -/
def isUnsignedInteger : List Char → Bool
  | ['0'] => true
  | '0' :: 'b' :: digits => !digits.isEmpty && digits.all (isDigitIn 2)
  | '0' :: 'x' :: digits => !digits.isEmpty && digits.all (isDigitIn 16)
  | '0' :: digits => digits.all (isDigitIn 8)
  | text =>
    match Text.splitOn ':' text with
    | first :: places => isCountingRun first && places.all isSexagesimal
    | [] => false

/-- Whether a text is the exponent of a floating-point number, which has a sign, or nothing. -/
def isExponent : List Char → Bool
  | [] => true
  | mark :: sign :: digits =>
    (mark == 'e' || mark == 'E') && (sign == '+' || sign == '-') && !digits.isEmpty &&
      digits.all Char.isDigit
  | _ => false

/-- Whether a text is what stands behind the point of a floating-point number. -/
def isFraction (text : List Char) : Bool := isExponent (text.dropWhile (isDigitIn 10))

/-- Whether a text is a floating-point number. -/
def isReal (text : List Char) : Bool :=
  let word := String.ofList text
  let magnitude := unsigned text
  let whole := magnitude.takeWhile (· != '.')
  let part := magnitude.dropWhile (· != '.')
  nanWords.contains word || infinityWords.contains (String.ofList magnitude) ||
    match part with
    | [] => false
    | _ :: part =>
      match Text.splitOn ':' whole with
      | [first] =>
        if first.isEmpty then text == magnitude && isDigitRun (part.take 1) && isFraction part
        else isDigitRun first && isFraction part
      | first :: places =>
        isDigitRun first && places.all isSexagesimal && part.all (isDigitIn 10)
      | [] => false

/-- The marks that are no text by themselves. -/
def loneMarks : List String := ["!", "&", "*"]

/-- The tag of a text by its form, where the text ends with no line feed. -/
def Tag.ofForm (text : List Char) : Tag :=
  let word := String.ofList text
  if trueWords.contains word || falseWords.contains word then .bool
  else if isReal text then .float
  else if isUnsignedInteger (unsigned text) then .int
  else if word == "<<" then .merge
  else if nullWords.contains word then .null
  else if isTimestamp text then .timestamp
  else if word == "=" then .value
  else if loneMarks.contains word then .other
  else .str

/-- The tag of a text without quotation marks. One line feed at its end does not count. -/
def Tag.ofPlain (text : List Char) : Tag :=
  if text == ['\n'] then .str else .ofForm (Text.withoutLineFeed text)

end Z80Monitor.Yaml
