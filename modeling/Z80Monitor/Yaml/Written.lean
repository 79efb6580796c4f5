import Z80Monitor.Configuration.Value
import Z80Monitor.Yaml.Data

/-!
# Data as text

The text of data inside other data. A collection inside itself is written as its brackets with
three points between them, so the text is finite whatever the data holds.
-/

namespace Z80Monitor.Yaml

/-- A scalar as a value of configuration data. Of scalars that no configuration asks for only the
texts are kept. -/
def Scalar.toValue : Scalar → Value
  | .null => .null
  | .truth value => .truth value
  | .integer value => .integer value
  | .real value => .real value
  | .notANumber => .real .nan
  | .text value =>
    match Text.characters? value with
    | some characters => .text (String.ofList characters)
    | none => .foreign (some value) (some (Text.quotedPoints value)) true
  | .bytes value =>
    let text := Text.quotedBytes value
    .foreign (some (Text.points text)) (some text) (!value.isEmpty)
  | .time value => .foreign (some (Text.points value.bare)) (some value.literal) true

/-- The text of a scalar inside other data; none for an integer that is too long. -/
def Scalar.literal (scalar : Scalar) : Option (List Char) := scalar.toValue.literal

/-- Text in square brackets. -/
def inBrackets (text : List Char) : List Char := ['['] ++ text ++ [']']

/-- Text in braces. -/
def inBraces (text : List Char) : List Char := ['\x7b'] ++ text ++ ['\x7d']

/-- What stands between the brackets of a collection inside itself. -/
def ellipsis : List Char := ['.', '.', '.']

/-- The brackets of a collection inside itself. -/
def Collection.folded : Collection → List Char
  | .list _ | .pairs _ => inBrackets ellipsis
  | .mapping _ | .set _ => inBraces ellipsis

/-- The number of places for the members of a set. -/
def placesFor (count : Nat) : Nat :=
  if count < 5 then 8 else Nat.pow 2 ((2 * count).log2 + 1)

/-- The members of a set in the order in which they are written: integers by their remainders for
the number of places, and other members as they were given. -/
def writtenOrder (keys : List Key) : List Key :=
  match keys.mapM fun key => key.value.whole? with
  | none => keys
  | some numbers =>
    let size : Int := placesFor keys.length
    ((keys.zip numbers).mergeSort fun left right => left.2 % size ≤ right.2 % size).map (·.1)

/-- The text of a collection, given that of what it holds. -/
def Collection.text (inside : Datum → Option (List Char)) : Collection → Option (List Char)
  | .list items => do return inBrackets (Text.commaList (← items.mapM inside))
  | .mapping entries => do
    let texts ← entries.mapM fun (key, value) => do
      return (← key.value.literal) ++ [':', ' '] ++ (← inside value)
    return inBraces (Text.commaList texts)
  | .pairs entries => do
    let texts ← entries.mapM fun (key, value) => do
      return ['('] ++ (← inside key) ++ [',', ' '] ++ (← inside value) ++ [')']
    return inBrackets (Text.commaList texts)
  | .set [] => some "set()".toList
  | .set keys => do
    return inBraces (Text.commaList (← (writtenOrder keys).mapM fun key => key.value.literal))

namespace Data

/-- What the collection of a node holds. -/
def collection? (data : Data) (id : NodeId) : Option Collection :=
  match data.collections[id]? with
  | some found => found
  | none => none

/-- The text of a datum inside the collections of a path, at most `fuel` collections deep. -/
def textInside (data : Data) (fuel : Nat) (path : List NodeId) : Datum → Option (List Char)
  | .scalar scalar => scalar.literal
  | .collection id =>
    match fuel, data.collection? id with
    | fuel + 1, some found =>
      if path.contains id then some found.folded
      else found.text (data.textInside fuel (id :: path))
    | _, _ => none

/-- The text of a datum. A path holds every collection at most once, so it is at most as long as
there are collections. -/
def text (data : Data) (datum : Datum) : Option (List Char) :=
  data.textInside (data.collections.size + 1) [] datum

end Data

end Z80Monitor.Yaml
