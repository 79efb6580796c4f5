import Z80Monitor.Yaml.Error

/-!
# Places in a YAML text

A cursor is a place in the text with what is left behind it and its line and column. Loops over
the text go on only where they have moved the cursor, and so they end. NUL, which no text holds,
stands for the end of the text.
-/

namespace Z80Monitor.Yaml

/-- Whether a character ends a line. -/
def isBreak (char : Char) : Bool :=
  char == '\n' || char == '\r' || char.toNat == 0x85 || char.toNat == 0x2028 ||
    char.toNat == 0x2029

/-- Whether a character ends a line or the text. -/
def isBreakOrEnd (char : Char) : Bool := isBreak char || char.toNat == 0

/-- Whether a character is a space, or ends a line or the text. -/
def isSpaceOrEnd (char : Char) : Bool := char == ' ' || isBreakOrEnd char

/-- Whether a character is a space or a tab, or ends a line or the text. -/
def isGapOrEnd (char : Char) : Bool := char == '\t' || isSpaceOrEnd char

/-- Whether a character may stand in a name: an ASCII letter or digit, a hyphen or an
underscore. -/
def isNameChar (char : Char) : Bool := char.isAlphanum || char == '-' || char == '_'

/-- A place in a text. -/
structure Cursor where
  /-- The text from here on. -/
  rest : List Char
  /-- How many characters are behind. -/
  index : Nat := 0
  /-- The line, counted from 0. -/
  line : Nat := 0
  /-- The column, counted from 0. -/
  column : Nat := 0

namespace Cursor

/-- The character some places ahead. -/
def ahead (cursor : Cursor) (distance : Nat) : Char :=
  (cursor.rest.drop distance).headD (Char.ofNat 0)

/-- The character at the cursor. -/
def current (cursor : Cursor) : Char := cursor.ahead 0

/-- Move over one character. -/
def step (cursor : Cursor) : Cursor :=
  match cursor.rest with
  | [] => cursor
  | char :: rest =>
    let endsLine := isBreak char && !(char == '\r' && rest.head? == some '\n')
    if endsLine then
      { rest, index := cursor.index + 1, line := cursor.line + 1, column := 0 }
    else
      let width := if char.toNat == 0xFEFF then 0 else 1
      { rest, index := cursor.index + 1, line := cursor.line, column := cursor.column + width }

/-- Move over some characters. -/
def forward (cursor : Cursor) : Nat → Cursor
  | 0 => cursor
  | count + 1 => cursor.step.forward count

/-- Take the longest run of characters of a class. -/
def takeRun (cursor : Cursor) (holds : Char → Bool) : List Char × Cursor :=
  let run := cursor.rest.takeWhile holds
  (run, cursor.forward run.length)

/-- Move over the longest run of characters of a class. -/
def skipRun (cursor : Cursor) (holds : Char → Bool) : Cursor := (cursor.takeRun holds).2

/-- Move over spaces. -/
def skipSpaces (cursor : Cursor) : Cursor := cursor.skipRun (· == ' ')

/-- Move over at most `count` spaces. -/
def skipSpacesUpTo (cursor : Cursor) (count : Nat) : Cursor :=
  cursor.forward (min count (cursor.rest.takeWhile (· == ' ')).length)

/-- Move over a comment, if one starts here. -/
def skipComment (cursor : Cursor) : Cursor :=
  if cursor.current == '#' then cursor.skipRun (fun char => !isBreak char) else cursor

/-- Take the end of a line, where one is: a separator keeps its own character and any other
line end becomes a line feed. -/
def takeBreak? (cursor : Cursor) : Option (Char × Cursor) :=
  match cursor.rest with
  | '\r' :: '\n' :: _ => some ('\n', cursor.forward 2)
  | char :: _ =>
    if char.toNat == 0x2028 || char.toNat == 0x2029 then some (char, cursor.forward 1)
    else if isBreak char then some ('\n', cursor.forward 1)
    else none
  | [] => none

/-- Whether a document marker stands here: three hyphens or three points and a gap. -/
def atMarker (cursor : Cursor) (mark : Char) : Bool :=
  cursor.rest.take 3 == [mark, mark, mark] && isGapOrEnd (cursor.ahead 3)

/-- Whether either document marker stands here. -/
def atAnyMarker (cursor : Cursor) : Bool := cursor.atMarker '-' || cursor.atMarker '.'

/-- Repeat a step with a state until it is done. A step that does not move the cursor ends the
loop with `stuck`. -/
def loop {State Result : Type} (stuck : Except YamlError Result)
    (next : State → Cursor → Except YamlError (Result ⊕ (State × Cursor))) (state : State)
    (cursor : Cursor) : Except YamlError Result :=
  match next state cursor with
  | .error error => .error error
  | .ok (.inl result) => .ok result
  | .ok (.inr (state, after)) =>
    if _ : after.rest.length < cursor.rest.length then loop stuck next state after else stuck
termination_by cursor.rest.length

end Cursor

end Z80Monitor.Yaml
