import Z80Monitor.Number.Binary64
import Z80Monitor.Text.Numeral

/-!
# Decimal notation of floating-point numbers

A number in decimal notation: blanks around it, a sign, digits of any script with a point between
them or at either end, and an exponent; or a word for infinity or for what is not a number, in
any case.
-/

namespace Z80Monitor.Binary64

/-- The words for infinity in lower case. -/
def infinityWords : List String := ["inf", "infinity"]

/-- The exponent that a text behind the digits denotes. -/
def readExponent? : List Char → Option Int
  | [] => some 0
  | mark :: rest =>
    let (negative, digits) := match rest with
      | '-' :: digits => (true, digits)
      | '+' :: digits => (false, digits)
      | digits => (false, digits)
    if mark.toLower != 'e' || digits.isEmpty || !digits.all Char.isDigit then none
    else
      let size : Int := Nat.ofDigitChars 10 digits 0
      some (if negative then -size else size)

/-- The number that digits with a point and an exponent denote. -/
def readDigits? (negative : Bool) (text : List Char) : Option Binary64 :=
  let whole := text.takeWhile Char.isDigit
  let behind := text.drop whole.length
  let part := match behind with
    | '.' :: rest => rest.takeWhile Char.isDigit
    | _ => []
  let behind := match behind with
    | '.' :: rest => rest.drop part.length
    | rest => rest
  if whole.isEmpty && part.isEmpty then none
  else
    (readExponent? behind).map fun exponent =>
      ofDecimal negative (Nat.ofDigitChars 10 (whole ++ part) 0) (exponent - part.length)

/-- The number that a text without blanks and without a sign denotes. -/
def readUnsigned? (negative : Bool) (text : List Char) : Option Binary64 :=
  let word := String.ofList (text.map Char.toLower)
  if infinityWords.contains word then some (.infinite negative)
  else if word == "nan" then some .nan
  else readDigits? negative text

/-- The number that a text denotes. -/
def read? (text : List Char) : Option Binary64 :=
  match (Text.trimBy Text.isNumeralBlank text).map Text.asciiDigit with
  | '-' :: rest => readUnsigned? true rest
  | '+' :: rest => readUnsigned? false rest
  | rest => readUnsigned? false rest

end Z80Monitor.Binary64
