/-!
# Hexadecimal text

Numbers in base 16, filled with zeros on the left up to a least width. The sign, and the mark
`0x` where there is one, count towards the width, and the zeros stand behind them.
-/

namespace Z80Monitor.Text

/-- The digits of a number in base 16, in upper case. -/
def hexDigits (value : Nat) : List Char := (Nat.toDigits 16 value).map Char.toUpper

/-- The sign of a number: a hyphen when it is negative, nothing otherwise. -/
def signOf (value : Int) : List Char := if value < 0 then ['-'] else []

/-- Digits behind `front`, with as many zeros between as make the whole `width` long. -/
def zeroFilled (width : Nat) (front digits : List Char) : List Char :=
  front ++ List.replicate (width - (front.length + digits.length)) '0' ++ digits

/-- A number in upper-case base 16, at least `width` characters long. -/
def hex (width : Nat) (value : Int) : List Char :=
  zeroFilled width (signOf value) (hexDigits value.natAbs)

/-- A number in lower-case base 16 with the mark `0x`, at least `width` characters long. -/
def markedHex (width : Nat) (value : Int) : List Char :=
  zeroFilled width (signOf value ++ ['0', 'x']) (Nat.toDigits 16 value.natAbs)

/-- A byte as two digits. -/
def hexByte (value : UInt8) : List Char := hex 2 value.toNat

/-- A word as four digits. -/
def hexWord (value : UInt16) : List Char := hex 4 value.toNat

/-- Bytes as pairs of digits with single spaces between them. -/
def hexBytes (bytes : List UInt8) : List Char := [' '].intercalate (bytes.map hexByte)

/-- A number in base 10. -/
def decimal (value : Int) : List Char := signOf value ++ Nat.toDigits 10 value.natAbs

end Z80Monitor.Text
