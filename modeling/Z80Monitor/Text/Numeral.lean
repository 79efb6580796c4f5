import Z80Monitor.Text.Blank
import Z80Monitor.Text.DecimalDigit
import Z80Monitor.Text.Hexadecimal

/-!
# Integer numerals

An integer in base 2, 8, 10 or 16: blanks around it, a sign, and digits of any script with single
underscores between them. In the other bases than 10 a mark such as `0x` may stand behind the
sign, with an underscore behind the mark. Base 10 admits at most 4300 digits.
-/

namespace Z80Monitor.Text

/-- The bases of integer numerals. -/
inductive Base where
  /-- Base 2. -/
  | binary
  /-- Base 8. -/
  | octal
  /-- Base 10. -/
  | decimal
  /-- Base 16. -/
  | hexadecimal
  deriving DecidableEq, Repr

/-- The number of digits of a base. -/
def Base.size : Base → Nat
  | .binary => 2
  | .octal => 8
  | .decimal => 10
  | .hexadecimal => 16

/-- The letter of the mark of a base, in lower case. -/
def Base.letter? : Base → Option Char
  | .binary => some 'b'
  | .octal => some 'o'
  | .decimal => none
  | .hexadecimal => some 'x'

/-- The greatest number of digits of an integer in base 10. -/
def decimalDigitLimit : Nat := 4300

/-- Why a text is no numeral. -/
inductive NumeralError where
  /-- The text is not well formed. -/
  | malformed
  /-- There are more digits in base 10 than the limit. -/
  | tooLong (digits : Nat)
  deriving DecidableEq, Repr

/-- The wording for an integer with too many digits, whose number is known where the integer is
read. -/
def digitLimitMessage (digits : Option Nat) : List Char :=
  "Exceeds the limit (".toList ++ decimal decimalDigitLimit ++
    " digits) for integer string conversion".toList ++
    (match digits with
      | some digits => ": value has ".toList ++ decimal digits ++ " digits".toList
      | none => []) ++
    "; use sys.set_int_max_str_digits() to increase the limit".toList

/-- Whether a character may stand in front of or behind a numeral: white space without the
information separators. -/
def isNumeralBlank (char : Char) : Bool :=
  isBlank char && !(0x1C ≤ char.toNat && char.toNat ≤ 0x1F)

/-- A character as numerals read it: a decimal digit of any script becomes the ASCII digit of
its value. -/
def asciiDigit (char : Char) : Char :=
  match decimalDigit? char with
  | some value => Nat.digitChar value
  | none => char

/-- The value of an ASCII digit in bases up to 16, letters in either case. -/
def digitValue? (char : Char) : Option Nat :=
  let code := char.toNat
  if 48 ≤ code && code ≤ 57 then some (code - 48)
  else if 65 ≤ code && code ≤ 70 then some (code - 55)
  else if 97 ≤ code && code ≤ 102 then some (code - 87)
  else none

/-- The value of a digit in a base. -/
def Base.digit? (base : Base) (char : Char) : Option Nat :=
  match digitValue? char with
  | some value => if value < base.size then some value else none
  | none => none

/-- The values of digits with single underscores between them. After an underscore, and at the
start, a digit must follow. -/
def digitValues (base : Base) (digitDue : Bool) : List Char → Option (List Nat)
  | [] => if digitDue then none else some []
  | char :: rest =>
    if char = '_' then
      if digitDue then none else digitValues base true rest
    else
      match base.digit? char with
      | none => none
      | some value => (digitValues base false rest).map (value :: ·)

/-- The number that digits denote, the most significant first. -/
def ofDigits (base : Nat) (digits : List Nat) : Nat :=
  digits.foldl (fun value digit => value * base + digit) 0

/-- The number that the unsigned part of a numeral denotes. Its digits are counted before it is
known that nothing stands behind them. -/
def parseMagnitude (base : Base) (text : List Char) : Except NumeralError Nat :=
  let run := text.takeWhile fun char => char == '_' || (base.digit? char).isSome
  match digitValues base true run with
  | none => .error .malformed
  | some digits =>
    if base = .decimal && decimalDigitLimit < digits.length then .error (.tooLong digits.length)
    else if run.length < text.length then .error .malformed
    else .ok (ofDigits base.size digits)

/-- The text behind the mark of a base and an underscore that may follow it, or the whole text. -/
def Base.behindMark (base : Base) : List Char → List Char
  | '0' :: letter :: rest =>
    if base.letter? = some letter.toLower then
      match rest with
      | '_' :: digits => digits
      | _ => rest
    else '0' :: letter :: rest
  | text => text

/-- The number that a numeral without a sign denotes. -/
def parseUnsigned (base : Base) (text : List Char) : Except NumeralError Nat :=
  parseMagnitude base (base.behindMark text)

/-- The integer that a text denotes in a base, or why there is none. -/
def parseInteger (base : Base) (text : List Char) : Except NumeralError Int :=
  match (trimBy isNumeralBlank text).map asciiDigit with
  | '+' :: rest => (parseUnsigned base rest).map Int.ofNat
  | '-' :: rest => (parseUnsigned base rest).map fun value => -(value : Int)
  | rest => (parseUnsigned base rest).map Int.ofNat

/-- The integer that a text denotes in a base. -/
def readInteger (base : Base) (text : List Char) : Option Int :=
  (parseInteger base text).toOption

/-- Whether a text begins with the mark `0x`. -/
def startsWithMark : List Char → Bool
  | '0' :: mark :: _ => mark == 'x' || mark == 'X'
  | _ => false

/-- The integer that a text denotes: in base 16 when it begins with the mark `0x`, in base 10
otherwise. -/
def readMarkedInteger (text : List Char) : Option Int :=
  if startsWithMark text then readInteger .hexadecimal text else readInteger .decimal text

/-- The integer that the text of an address denotes. A dollar sign in front stands for base 16
as well. -/
def readAddress (text : List Char) : Option Int :=
  match text with
  | '$' :: rest => readInteger .hexadecimal rest
  | _ => readMarkedInteger text

end Z80Monitor.Text
