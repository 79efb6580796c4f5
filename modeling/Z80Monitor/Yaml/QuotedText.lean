import Z80Monitor.Yaml.Cursor

/-!
# Quoted texts of YAML

Texts in single quotes, where two quotes stand for one, and texts in double quotes, where a
backslash starts an escape, which may give half of a surrogate pair. Inside either, a line end
becomes a space, and each further line end stays.
-/

namespace Z80Monitor.Yaml

open Text (CodePoint points)

/-- The character that a letter behind a backslash stands for. -/
def escapedChar? : Char → Option Char
  | '0' => some (Char.ofNat 0)
  | 'a' => some (Char.ofNat 7)
  | 'b' => some (Char.ofNat 8)
  | 't' => some '\t'
  | '\t' => some '\t'
  | 'n' => some '\n'
  | 'v' => some (Char.ofNat 11)
  | 'f' => some (Char.ofNat 12)
  | 'r' => some '\r'
  | 'e' => some (Char.ofNat 27)
  | ' ' => some ' '
  | '"' => some '"'
  | '\\' => some '\\'
  | '/' => some '/'
  | 'N' => some (Char.ofNat 0x85)
  | '_' => some (Char.ofNat 0xA0)
  | 'L' => some (Char.ofNat 0x2028)
  | 'P' => some (Char.ofNat 0x2029)
  | _ => none

/-- How many hexadecimal digits follow a letter behind a backslash. -/
def escapeLength? : Char → Option Nat
  | 'x' => some 2
  | 'u' => some 4
  | 'U' => some 8
  | _ => none

/-- The line ends from here on, with blanks around them passed over. A document marker may not
stand at the start of a line. -/
def quotedBreaks (cursor : Cursor) : Except YamlError (List Char × Cursor) :=
  Cursor.loop (.error .openQuote)
    (fun (breaks : List Char) cursor =>
      if cursor.atAnyMarker then .error .openQuote
      else
        let cursor := cursor.skipRun (fun char => char == ' ' || char == '\t')
        match cursor.takeBreak? with
        | some (lineEnd, after) => .ok (.inr (lineEnd :: breaks, after))
        | none => .ok (.inl (breaks.reverse, cursor)))
    [] cursor

/-- What the line ends between two pieces of a folded text amount to: a single line feed is a
space, and otherwise the first line feed is dropped. -/
def folded (first : Char) (breaks : List Char) : List Char :=
  if first != '\n' then first :: breaks
  else if breaks.isEmpty then [' ']
  else breaks

/-- The gap between two pieces of a quoted text. -/
def quotedGap (cursor : Cursor) : Except YamlError (List Char × Cursor) := do
  let (blanks, after) := cursor.takeRun (fun char => char == ' ' || char == '\t')
  match after.takeBreak? with
  | some (first, after) =>
    let (breaks, after) ← quotedBreaks after
    .ok (folded first breaks, after)
  | none => if after.rest.isEmpty then .error .openQuote else .ok (blanks, after)

/-- The code point of an escape, with the cursor behind the backslash; a line end escaped is
nothing but the line ends that follow it. -/
def escape (cursor : Cursor) : Except YamlError (List CodePoint × Cursor) :=
  match escapedChar? cursor.current, escapeLength? cursor.current with
  | some char, _ => .ok ([.char char], cursor.forward 1)
  | none, some length =>
    let digits := (cursor.rest.drop 1).take length
    match digits.mapM Text.digitValue? with
    | some values =>
      let code := Text.ofDigits 16 values
      if values.length < length then .error .badEscape
      else
        match CodePoint.ofNat? code with
        | some point => .ok ([point], cursor.forward (length + 1))
        | none => .error (.noCharacter code)
    | none => .error .badEscape
  | none, none =>
    match cursor.takeBreak? with
    | some (_, after) => (quotedBreaks after).map fun (breaks, after) => (points breaks, after)
    | none => .error .badEscape

/-- Whether a character goes into a quoted text as it is. -/
def isQuotedChar (char : Char) : Bool :=
  !(char == '\'' || char == '"' || char == '\\' || isGapOrEnd char)

/-- The text up to the closing quotation mark, with the cursor behind the opening one. -/
def quotedText (mark : Char) (cursor : Cursor) :
    Except YamlError (List CodePoint × Cursor) :=
  Cursor.loop (.error .openQuote)
    (fun (taken : List CodePoint) cursor =>
      let (run, after) := cursor.takeRun isQuotedChar
      let taken := taken ++ points run
      let char := after.current
      if char == mark then
        if mark == '\'' && after.ahead 1 == '\'' then
          .ok (.inr (taken ++ [.char '\''], after.forward 2))
        else .ok (.inl (taken, after.forward 1))
      else if char == '\'' || char == '"' then .ok (.inr (taken ++ [.char char], after.forward 1))
      else if char == '\\' then
        if mark == '"' then do
          let (text, after) ← escape (after.forward 1)
          .ok (.inr (taken ++ text, after))
        else .ok (.inr (taken ++ [.char char], after.forward 1))
      else do
        let (gap, after) ← quotedGap after
        .ok (.inr (taken ++ points gap, after)))
    [] cursor

end Z80Monitor.Yaml
