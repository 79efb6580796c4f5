import Z80Monitor.Number.Shortest
import Z80Monitor.Text.Numeral
import Z80Monitor.Text.Surrogate

/-!
# Values of configuration data

The data that configurations are read from: nothing, truth values, numbers, text, lists, and
mappings that keep the order of their entries. A value has a text for messages, in which text
stands bare by itself and quoted inside another value. An integer with more digits than the limit
has no text, and neither has a value that holds one.

Documents can hold more than that. Of data that no configuration asks for, such as a date, only
the texts are kept. A mapping that holds itself keeps its text beside its entries.
-/

namespace Z80Monitor

/-- A value of configuration data. -/
inductive Value where
  /-- Nothing. -/
  | null
  /-- A truth value. -/
  | truth (value : Bool)
  /-- An integer of any size. -/
  | integer (value : Int)
  /-- A floating-point number. -/
  | real (value : Binary64)
  /-- A text. -/
  | text (value : String)
  /-- Values in order. -/
  | list (values : List Value)
  /-- Entries in order, each a key with its value. -/
  | mapping (entries : List (Value × Value))
  /-- Data of any other kind: its text by itself, its text inside another value, and whether it
  counts as present. -/
  | foreign (bare : Option (List Text.CodePoint)) (inside : Option (List Char)) (present : Bool)
  /-- A mapping that holds itself: its entries, as deep as configurations go, and its text. -/
  | knot (entries : List (Value × Value)) (inside : Option (List Char))
  deriving Inhabited

namespace Value

/-- The text of an integer, if it is not too long. -/
def integerText? (value : Int) : Option (List Char) :=
  let digits := Nat.toDigits 10 value.natAbs
  if Text.decimalDigitLimit < digits.length then none
  else some (if value < 0 then '-' :: digits else digits)

mutual

/-- The text of a value inside another one. -/
def literal : Value → Option (List Char)
  | .null => some "None".toList
  | .truth value => some (if value then "True".toList else "False".toList)
  | .integer value => integerText? value
  | .real value => some value.text
  | .text value => some (Text.quoted value.toList)
  | .list values => do return ['['] ++ (← literals values) ++ [']']
  | .mapping entries => do return ['\x7b'] ++ (← entryLiterals entries) ++ ['\x7d']
  | .foreign _ inside _ => inside
  | .knot _ inside => inside

/-- The texts of the members of a list, with commas between them. -/
def literals : List Value → Option (List Char)
  | [] => some []
  | [value] => literal value
  | value :: rest => do return (← literal value) ++ [',', ' '] ++ (← literals rest)

/-- The texts of the entries of a mapping, with commas between them. -/
def entryLiterals : List (Value × Value) → Option (List Char)
  | [] => some []
  | [(key, value)] => do return (← literal key) ++ [':', ' '] ++ (← literal value)
  | (key, value) :: rest => do
    return (← literal key) ++ [':', ' '] ++ (← literal value) ++ [',', ' '] ++
      (← entryLiterals rest)

end

/-- The text of a value by itself. -/
def display : Value → Option (List Text.CodePoint)
  | .text value => some (Text.points value.toList)
  | .foreign bare _ _ => bare
  | value => value.literal.map Text.points

/-- Whether a value counts as present: nothing, false, zero and the empty text, list and mapping
do not. -/
def isPresent : Value → Bool
  | .null => false
  | .truth value => value
  | .integer value => value != 0
  | .real value => !value.isZero
  | .text value => !value.isEmpty
  | .list values => !values.isEmpty
  | .mapping entries => !entries.isEmpty
  | .foreign _ _ present => present
  | .knot _ _ => true

/-- The entries of a mapping. -/
def entries? : Value → Option (List (Value × Value))
  | .mapping entries => some entries
  | .knot entries _ => some entries
  | _ => none

/-- Whether a value is the given text. -/
def isText (name : String) : Value → Bool
  | .text value => value == name
  | _ => false

/-- The value of a key that is a text. -/
def lookup (entries : List (Value × Value)) (name : String) : Option Value :=
  (entries.find? fun (key, _) => key.isText name).map (·.2)

end Value

end Z80Monitor
