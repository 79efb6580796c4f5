import Z80Monitor.Yaml.QuotedText

/-!
# Plain texts of YAML

Texts without quotation marks. A plain text goes over line ends as long as the next line is
indented enough and holds no document marker; inside brackets, brackets and commas end it.
-/

namespace Z80Monitor.Yaml

/-- Whether a character is a bracket or a comma. -/
def isFlowMark (char : Char) : Bool :=
  char == ',' || char == '[' || char == ']' || char == '\x7b' || char == '\x7d'

/-- The characters of a plain text up to a gap, a colon that ends a key, or a mark that ends it
inside brackets. -/
def plainRun (inFlow : Bool) : List Char → List Char
  | [] => []
  | char :: rest =>
    let following := rest.headD (Char.ofNat 0)
    let endsKey :=
      char == ':' && (isGapOrEnd following || (inFlow && isFlowMark following))
    if isGapOrEnd char || endsKey || (inFlow && (char == '?' || isFlowMark char)) then []
    else char :: plainRun inFlow rest

/-- A gap inside a plain text. -/
structure PlainGap where
  /-- What the gap amounts to; nothing where the text ends. -/
  text : List Char
  /-- Whether the gap goes over a line end. -/
  crossesLine : Bool

/-- The gap at the cursor, which is behind a run of a plain text. -/
def plainGap (cursor : Cursor) : Except YamlError (PlainGap × Cursor) :=
  let (blanks, after) := cursor.takeRun (· == ' ')
  match after.takeBreak? with
  | none => .ok (⟨blanks, false⟩, after)
  | some (first, after) =>
    if after.atAnyMarker then .ok (⟨[], true⟩, after)
    else
      Cursor.loop (.error .forbiddenCharacter)
        (fun (breaks : List Char) cursor =>
          let cursor := cursor.skipSpaces
          match cursor.takeBreak? with
          | none => .ok (.inl (⟨folded first breaks.reverse, true⟩, cursor))
          | some (lineEnd, after) =>
            if after.atAnyMarker then .ok (.inl (⟨[], true⟩, after))
            else .ok (.inr (lineEnd :: breaks, after)))
        [] after

/-- A plain text. -/
structure PlainText where
  /-- The text. -/
  text : List Char
  /-- Whether a key may stand where the text ends. -/
  keyMayFollow : Bool

/-- What is known of a plain text that is being read. -/
structure PlainState where
  /-- The text so far. -/
  taken : List Char
  /-- The gap behind it. -/
  gap : List Char
  /-- Whether that gap goes over a line end. -/
  crossesLine : Bool

/-- The plain text at the cursor. Outside brackets its further lines start at column `indent` or
later. -/
def plainText (inFlow : Bool) (indent : Nat) (cursor : Cursor) :
    Except YamlError (PlainText × Cursor) :=
  Cursor.loop (.error .forbiddenCharacter)
    (fun (state : PlainState) cursor =>
      let finished := (⟨state.taken, state.crossesLine⟩, cursor)
      if cursor.current == '#' then .ok (.inl finished)
      else
        let run := plainRun inFlow cursor.rest
        if run.isEmpty then .ok (.inl finished)
        else do
          let taken := state.taken ++ state.gap ++ run
          let (gap, after) ← plainGap (cursor.forward run.length)
          if gap.text.isEmpty || after.current == '#' || (!inFlow && after.column < indent) then
            .ok (.inl (⟨taken, gap.crossesLine⟩, after))
          else .ok (.inr (⟨taken, gap.text, gap.crossesLine⟩, after)))
    ⟨[], [], false⟩ cursor

end Z80Monitor.Yaml
