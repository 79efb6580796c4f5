import Z80Monitor.Number.Notation
import Z80Monitor.Text.Base64
import Z80Monitor.Text.Pieces
import Z80Monitor.Yaml.Error
import Z80Monitor.Yaml.Tag

/-!
# Scalars of YAML 1.1

The values without parts, and how each is read from a text with its tag. A number that is tagged
as one may have more forms than a text that is taken for a number: its places in base 60 may be
any numbers, and around each there may be blanks.
-/

namespace Z80Monitor.Yaml

open Text (CodePoint)

/-- A value without parts. -/
inductive Scalar where
  /-- Nothing. -/
  | null
  /-- A truth value. -/
  | truth (value : Bool)
  /-- An integer. -/
  | integer (value : Int)
  /-- A floating-point number. -/
  | real (value : Binary64)
  /-- The constant for what is not a number. -/
  | notANumber
  /-- A text. -/
  | text (value : List CodePoint)
  /-- Bytes. -/
  | bytes (value : List UInt8)
  /-- A day or a moment. -/
  | time (value : Calendar.Timestamp)
  deriving DecidableEq, Repr

/-! ## Sameness -/

/-- A number, whichever way it is kept. -/
inductive Quantity where
  /-- An integer. -/
  | whole (value : Int)
  /-- A floating-point number that is no integer. -/
  | real (value : Binary64)

/-- The number that a scalar is; a truth value counts as 0 or 1. -/
def Scalar.quantity? : Scalar → Option Quantity
  | .truth value => some (.whole (if value then 1 else 0))
  | .integer value => some (.whole value)
  | .real value =>
    match value.toInt? with
    | some number => some (.whole number)
    | none => some (.real value)
  | _ => none

/-- The integer that a scalar denotes. -/
def Scalar.whole? (scalar : Scalar) : Option Int :=
  match scalar.quantity? with
  | some (.whole value) => some value
  | _ => none

/-- Whether two scalars are the same key. Numbers are compared by what they denote, and what is
not a number is the same as no other scalar unless both are the constant for it. -/
def Scalar.same (left right : Scalar) : Bool :=
  match left.quantity?, right.quantity? with
  | some (.whole left), some (.whole right) => left == right
  | some (.real left), some (.real right) => left.same right
  | none, none =>
    match left, right with
    | .time left, .time right => left.same right
    | left, right => left == right
  | _, _ => false

/-! ## Numbers -/

/-- The digits of a number without the underscores. -/
def withoutUnderscores (text : List CodePoint) : List CodePoint := text.filter (· != .char '_')

/-- The sign in front of a number, and what is behind it: whether it is a minus sign. -/
def takeSign : List CodePoint → Bool × List CodePoint
  | .char '-' :: rest => (true, rest)
  | .char '+' :: rest => (false, rest)
  | text => (false, text)

/-- The places of a number in base 60. -/
def placesOf (text : List CodePoint) : List (List CodePoint) := Text.splitOn (.char ':') text

/-- The integer that a text denotes in a base. -/
def readBased (base : Text.Base) (text : List CodePoint) : Except YamlError Int :=
  (Text.parseInteger base (Text.standIns text)).mapError fun
    | .malformed => .noInteger base text
    | .tooLong digits => .integerTooLong digits

/-- The integer that a text without underscores denotes behind its sign. -/
def readMagnitude : List CodePoint → Except YamlError Int
  | [] => .error .numberMissing
  | [.char '0'] => .ok 0
  | .char '0' :: .char 'b' :: digits => readBased .binary digits
  | .char '0' :: .char 'x' :: digits => readBased .hexadecimal digits
  | .char '0' :: digits => readBased .octal (.char '0' :: digits)
  | text => do
    let places ← (placesOf text).mapM (readBased .decimal)
    return places.foldl (fun value place => value * 60 + place) 0

/-- The integer that a text denotes. -/
def readInteger (text : List CodePoint) : Except YamlError Int := do
  let (negative, rest) := takeSign (withoutUnderscores text)
  let value ← readMagnitude rest
  return if negative then -value else value

/-- The floating-point number that a text denotes in base 10. -/
def readDecimal (text : List CodePoint) : Except YamlError Binary64 :=
  match Binary64.read? (Text.standIns text) with
  | some value => .ok value
  | none => .error (.noReal text)

/-- The floating-point number that a text denotes. -/
def readReal (text : List CodePoint) : Except YamlError Scalar := do
  let text := Text.lowerPoints (withoutUnderscores text)
  if text.isEmpty then .error .numberMissing
  else
    let (negative, rest) := takeSign text
    let signed (value : Binary64) : Scalar := .real (if negative then value.negate else value)
    if rest == Text.points ".inf".toList then return signed (.infinite false)
    else if rest == Text.points ".nan".toList then return .notANumber
    else
      match placesOf rest with
      | [_] => return signed (← readDecimal rest)
      | places =>
        match Binary64.ofPlaces? 60 (← places.mapM readDecimal) with
        | some value => return signed value
        | none => .error .tooManyPlaces

/-! ## All scalars -/

/-- The truth value that a word stands for, in any case. -/
def readTruth (text : List CodePoint) : Except YamlError Bool :=
  let word := Text.lowerPoints text
  let isOneOf (words : List String) : Bool :=
    words.any fun known => word == Text.points known.toList
  if isOneOf trueWords then .ok true
  else if isOneOf falseWords then .ok false
  else .error (.noTruthValue word)

/-- The bytes that a text stands for, which may hold ASCII characters only. -/
def readBytes (text : List CodePoint) : Except YamlError (List UInt8) :=
  let chars := Text.standIns text
  if chars.any fun char => 0x80 ≤ char.toNat then .error .noBytes
  else
    match Text.decodeBase64 chars with
    | some bytes => .ok bytes
    | none => .error .noBytes

/-- The day or moment that a text denotes. One line feed at its end does not count. -/
def readTime (text : List CodePoint) : Except YamlError Calendar.Timestamp :=
  match readTimestamp? (Text.withoutLineFeed (Text.standIns text)) with
  | some time =>
    match time.check with
    | .ok () => .ok time
    | .error fault => .error (.noSuchTime fault)
  | none => .error .noTimestamp

/-- The scalar that a text denotes with the tag of a scalar. -/
def Scalar.read (tag : Tag) (text : List CodePoint) : Except YamlError Scalar :=
  match tag with
  | .str => .ok (.text text)
  | .null => .ok .null
  | .bool => (readTruth text).map .truth
  | .int => (readInteger text).map .integer
  | .float => readReal text
  | .binary => (readBytes text).map .bytes
  | .timestamp => (readTime text).map .time
  | _ => .error .unknownTag

end Z80Monitor.Yaml
