import Z80Monitor.Text.Quoted

/-!
# Base 64

Bytes written as digits of six bits. Four digits make three bytes; where the last group makes
fewer, equality signs fill it up. Characters that are no digits are passed over, and a group that
is filled up ends the text.
-/

namespace Z80Monitor.Text

/-- The digits of base 64 in order. -/
def base64Digits : List Char :=
  "ABCDEFGHIJKLMNOPQRSTUVWXYZabcdefghijklmnopqrstuvwxyz0123456789+/".toList

/-- How far a group of four digits is read. -/
inductive GroupState where
  /-- No digit of the group is read. -/
  | none
  /-- One digit is read: six bits wait. -/
  | one (bits : Nat)
  /-- Two digits are read: four bits wait, and the group may be filled up. -/
  | two (bits fill : Nat)
  /-- Three digits are read: two bits wait, and the group may be filled up. -/
  | three (bits : Nat)
  deriving DecidableEq, Repr

/-- The bytes of a text inside a group. -/
def decodeGroups (state : GroupState) : List Char → Option (List UInt8)
  | [] => if state = .none then some [] else none
  | char :: rest =>
    if char = '=' then
      match state with
      | .two bits 0 => decodeGroups (.two bits 1) rest
      | .two _ _ | .three _ => some []
      | state => decodeGroups state rest
    else
      match base64Digits.findIdx? (· == char), state with
      | none, state => decodeGroups state rest
      | some digit, .none => decodeGroups (.one digit) rest
      | some digit, .one bits =>
        (decodeGroups (.two (digit % 16) 0) rest).map (UInt8.ofNat (bits * 4 + digit / 16) :: ·)
      | some digit, .two bits _ =>
        (decodeGroups (.three (digit % 4)) rest).map (UInt8.ofNat (bits * 16 + digit / 4) :: ·)
      | some digit, .three bits =>
        (decodeGroups .none rest).map (UInt8.ofNat (bits * 64 + digit) :: ·)

/-- The bytes of a text. -/
def decodeBase64 (text : List Char) : Option (List UInt8) := decodeGroups .none text

/-- One byte inside quotation marks: an ASCII character, or an escape. -/
def quotedByte (mark : Char) (byte : UInt8) : List Char :=
  if byte < 0x80 then quotedChar mark (Char.ofNat byte.toNat)
  else ['\\', 'x'] ++ fixedHex 2 byte.toNat

/-- Bytes in quotation marks. -/
def quotedBytes (bytes : List UInt8) : List Char :=
  let mark := quotationMark (bytes.map fun byte => Char.ofNat byte.toNat)
  ['b', mark] ++ bytes.flatMap (quotedByte mark) ++ [mark]

end Z80Monitor.Text
