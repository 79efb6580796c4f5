/-!
# UTF-8

The characters that bytes stand for. Bytes are refused at the first one that cannot belong to a
character, with the reason.
-/

namespace Z80Monitor.Text

/-- Why bytes are no UTF-8. -/
inductive Utf8Error where
  /-- No character starts with the byte. -/
  | startByte
  /-- The byte cannot go on with the character that the bytes in front of it start. -/
  | continuationByte
  /-- The bytes end inside a character. -/
  | unexpectedEnd
  deriving DecidableEq, Repr

/-- The wording of a reason. -/
def Utf8Error.message : Utf8Error → String
  | .startByte => "invalid start byte"
  | .continuationByte => "invalid continuation byte"
  | .unexpectedEnd => "unexpected end of data"

/-- A character of which at least one byte is still due. -/
structure OpenCharacter where
  /-- How many bytes are due behind the next one. -/
  further : Nat
  /-- The least value of the next byte. -/
  least : UInt8
  /-- The greatest value of the next byte. -/
  greatest : UInt8
  /-- The number that the bits so far make. -/
  bits : Nat
  deriving DecidableEq, Repr

/-- The character that a byte above 127 starts. The bounds of the second byte leave out longer
spellings than needed, surrogates, and numbers above the last character. -/
def OpenCharacter.ofFirst? (first : UInt8) : Option OpenCharacter :=
  let value := first.toNat
  if value < 0xC2 then none
  else if value < 0xE0 then some ⟨0, 0x80, 0xBF, value - 0xC0⟩
  else if value = 0xE0 then some ⟨1, 0xA0, 0xBF, 0⟩
  else if value = 0xED then some ⟨1, 0x80, 0x9F, 0xD⟩
  else if value < 0xF0 then some ⟨1, 0x80, 0xBF, value - 0xE0⟩
  else if value = 0xF0 then some ⟨2, 0x90, 0xBF, 0⟩
  else if value < 0xF4 then some ⟨2, 0x80, 0xBF, value - 0xF0⟩
  else if value = 0xF4 then some ⟨2, 0x80, 0x8F, 4⟩
  else none

/-- Read bytes behind the characters `taken`, the last of which stands first, and inside the
character `pending`, if there is one. -/
def decodeUtf8From (taken : List Char) (pending : Option OpenCharacter) :
    List UInt8 → Except Utf8Error (List Char)
  | [] =>
    match pending with
    | none => .ok taken.reverse
    | some _ => .error .unexpectedEnd
  | next :: rest =>
    match pending with
    | none =>
      if next < 0x80 then decodeUtf8From (Char.ofNat next.toNat :: taken) none rest
      else
        match OpenCharacter.ofFirst? next with
        | some character => decodeUtf8From taken (some character) rest
        | none => .error .startByte
    | some character =>
      if character.least ≤ next && next ≤ character.greatest then
        let bits := character.bits * 64 + (next.toNat - 0x80)
        match character.further with
        | 0 => decodeUtf8From (Char.ofNat bits :: taken) none rest
        | further + 1 => decodeUtf8From taken (some ⟨further, 0x80, 0xBF, bits⟩) rest
      else .error .continuationByte

/-- The characters that bytes stand for. -/
def decodeUtf8 (bytes : List UInt8) : Except Utf8Error (List Char) :=
  decodeUtf8From [] none bytes

end Z80Monitor.Text
