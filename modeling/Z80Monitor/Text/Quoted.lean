import Z80Monitor.Text.Printable

/-!
# Quoted text

A text in quotation marks on one line. The mark is the apostrophe, or the double quote when the
text holds an apostrophe and no double quote. The backslash and the mark are escaped, and so is
every character that is not printable.
-/

namespace Z80Monitor.Text

/-- A number in lower-case base 16 with exactly as many digits as `width`, for numbers that have
no more. -/
def fixedHex (width value : Nat) : List Char :=
  let digits := Nat.toDigits 16 value
  List.replicate (width - digits.length) '0' ++ digits

/-- One character inside quotation marks. -/
def quotedChar (mark char : Char) : List Char :=
  if char = mark || char = '\\' then ['\\', char]
  else if char = '\n' then ['\\', 'n']
  else if char = '\r' then ['\\', 'r']
  else if char = '\t' then ['\\', 't']
  else if isPrintable char then [char]
  else if char.toNat < 0x100 then ['\\', 'x'] ++ fixedHex 2 char.toNat
  else if char.toNat < 0x10000 then ['\\', 'u'] ++ fixedHex 4 char.toNat
  else ['\\', 'U'] ++ fixedHex 8 char.toNat

/-- The mark that a text is quoted with. -/
def quotationMark (text : List Char) : Char :=
  if text.contains '\'' && !text.contains '"' then '"' else '\''

/-- A text in quotation marks. -/
def quoted (text : List Char) : List Char :=
  let mark := quotationMark text
  [mark] ++ text.flatMap (quotedChar mark) ++ [mark]

/-- A string in quotation marks. -/
def quotedString (text : String) : String := String.ofList (quoted text.toList)

end Z80Monitor.Text
