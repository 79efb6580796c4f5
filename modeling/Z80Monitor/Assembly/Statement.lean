import Z80Monitor.Instruction.Encoding
import Z80Monitor.Text.Numeral
import Z80Monitor.Text.Pieces

/-!
# Assembly statements

A line of assembly text is blank, or a mnemonic with operands. Letter case, comments behind a
semicolon and white space do not matter: the operands are what remains behind the mnemonic when
all white space is taken out, cut at the commas. A statement denotes an instruction when its
form is known and its numbers are hexadecimal numerals.
-/

namespace Z80Monitor

/-- Why a line is refused. -/
inductive LineError where
  /-- The mnemonic is known but not with these operands. -/
  | unsupportedOperands (mnemonic : List Char)
  /-- An operand is no hexadecimal numeral. -/
  | invalidNumeral (text : List Char)
  /-- The mnemonic is not known. -/
  | unknownMnemonic (mnemonic : List Char)
  deriving DecidableEq, Repr

/-- The wording of a refusal. -/
def LineError.message : LineError → String
  | .unsupportedOperands mnemonic => "unsupported operands for " ++ String.ofList mnemonic
  | .invalidNumeral text => "invalid hex value " ++ String.ofList (Text.quoted text)
  | .unknownMnemonic mnemonic => "unknown mnemonic " ++ String.ofList (Text.quoted mnemonic)

/-- A mnemonic with its operands, in upper case. -/
structure Statement where
  /-- The first word of the line. -/
  mnemonic : List Char
  /-- The operands without any white space. -/
  operands : List (List Char)
  deriving DecidableEq, Repr

namespace Statement

/-- The text of a line in front of a comment, in upper case and without blanks around it. -/
def significant (line : List Char) : List Char :=
  Text.upper (Text.trim (line.takeWhile (· != ';')))

/-- The statement on a line, unless the line is blank. -/
def ofLine? (line : List Char) : Option Statement :=
  match Text.words (significant line) with
  | [] => none
  | mnemonic :: rest =>
    let operands := rest.flatten
    some ⟨mnemonic, if operands.isEmpty then [] else Text.splitOn ',' operands⟩

/-- The value of a hexadecimal digit in upper case. -/
def hexDigit? (char : Char) : Option Nat :=
  let code := char.toNat
  if 48 ≤ code && code ≤ 57 then some (code - 48)
  else if 65 ≤ code && code ≤ 70 then some (code - 55)
  else none

/-- The values of hexadecimal digits in upper case. -/
def hexDigits? : List Char → Option (List Nat)
  | [] => some []
  | char :: rest =>
    match hexDigit? char with
    | none => none
    | some value => (hexDigits? rest).map (value :: ·)

/-- The digits of a numeral without the mark that makes it hexadecimal: a dollar sign or `0X` in
front, or an `H` behind at least one character. -/
def unmarked : List Char → List Char
  | '$' :: digits => digits
  | '0' :: 'X' :: digits => digits
  | text => if 1 < text.length && text.getLast? == some 'H' then text.dropLast else text

/-- The number that a hexadecimal numeral denotes. -/
def readNumeral (text : List Char) : Except LineError Nat :=
  match hexDigits? (unmarked text) with
  | some (first :: rest) => .ok (Text.ofDigits 16 (first :: rest))
  | _ => .error (.invalidNumeral text)

/-- The operand that a value can be loaded into. -/
def loadTarget? (name : List Char) : Option Operand :=
  [Operand.b, .c, .d, .e, .h, .l, .a].find? fun operand => operand.name.toList == name

/-- The instructions whose operands are fixed, with their spelling. -/
def fixedForms : List (Statement × Instruction) :=
  [(⟨"NOP".toList, []⟩, .nop),
    (⟨"HALT".toList, []⟩, .halt),
    (⟨"XOR".toList, [['A']]⟩, .xor .a),
    (⟨"INC".toList, [['A']]⟩, .increment .a),
    (⟨"DEC".toList, [['A']]⟩, .decrement .a),
    (⟨"ADD".toList, [['A'], ['B']]⟩, .add .b)]

/-- The instruction that a load denotes. -/
def readLoad (statement : Statement) : Except LineError Instruction :=
  match statement.operands with
  | [target, value] =>
    match loadTarget? target with
    | some target => (readNumeral value).map fun value => .load target (byte value)
    | none => .error (.unsupportedOperands statement.mnemonic)
  | _ => .error (.unsupportedOperands statement.mnemonic)

/-- The instruction that a jump denotes. -/
def readJump (statement : Statement) : Except LineError Instruction :=
  match statement.operands with
  | [address] => (readNumeral address).map fun address => .jump (word address)
  | _ => .error (.unsupportedOperands statement.mnemonic)

/-- The instruction that a statement denotes. -/
def instruction (statement : Statement) : Except LineError Instruction :=
  match fixedForms.find? (·.1 == statement) with
  | some (_, instruction) => .ok instruction
  | none =>
    if statement.mnemonic = "LD".toList then statement.readLoad
    else if statement.mnemonic = "JP".toList then statement.readJump
    else if fixedForms.any (·.1.mnemonic == statement.mnemonic) then
      .error (.unsupportedOperands statement.mnemonic)
    else .error (.unknownMnemonic statement.mnemonic)

end Statement

end Z80Monitor
