/-!
# Escape codes of terminals

An escape code begins with the escape character and a square bracket. Then come parameters, from
the digit zero to the question mark, intermediate characters, from the space to the slash, and one
final character, from the at sign to the tilde. Messages that go to no terminal are written
without escape codes.
-/

namespace Z80Monitor.Text

/-- Whether a character may stand among the parameters of an escape code. -/
def isCodeParameter (char : Char) : Bool := 0x30 ≤ char.toNat && char.toNat ≤ 0x3F

/-- Whether a character may stand between the parameters and the final character. -/
def isCodeIntermediate (char : Char) : Bool := 0x20 ≤ char.toNat && char.toNat ≤ 0x2F

/-- Whether a character may end an escape code. -/
def isCodeFinal (char : Char) : Bool := 0x40 ≤ char.toNat && char.toNat ≤ 0x7E

/-- The text behind an escape code whose bracket is in front of the text. -/
def behindCode? (text : List Char) : Option (List Char) :=
  match (text.dropWhile isCodeParameter).dropWhile isCodeIntermediate with
  | final :: rest => if isCodeFinal final then some rest else none
  | [] => none

/-- What is behind an escape code is shorter. -/
theorem length_behindCode? {text rest : List Char} (found : behindCode? text = some rest) :
    rest.length < text.length := by
  have parameters := (List.dropWhile_sublist isCodeParameter (l := text)).length_le
  have bound := (List.dropWhile_sublist isCodeIntermediate
    (l := text.dropWhile isCodeParameter)).length_le
  unfold behindCode? at found
  split at found
  · rename_i final tail split
    split at found
    · cases found
      rw [split] at bound
      simp only [List.length_cons] at bound
      omega
    · cases found
  · cases found

/-- A text without its escape codes. -/
def withoutCodes (text : List Char) : List Char :=
  match text with
  | [] => []
  | char :: rest =>
    if char.toNat == 27 && rest.head? == some '[' then
      match _found : behindCode? rest.tail with
      | some behind => withoutCodes behind
      | none => char :: withoutCodes rest
    else char :: withoutCodes rest
termination_by text.length
decreasing_by
  · have shorter := length_behindCode? _found
    simp only [List.length_tail, List.length_cons] at shorter ⊢
    omega
  · simp
  · simp

end Z80Monitor.Text
