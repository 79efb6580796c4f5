import Z80Monitor.Yaml.QuotedText

/-!
# Blocks of text in YAML

Texts of whole lines behind a vertical bar, which keeps their line ends, or behind a greater-than
sign, which folds them. The first line may say how far the text is indented and what becomes of
the line ends behind it.
-/

namespace Z80Monitor.Yaml

/-- What becomes of the line ends behind a block of text. -/
inductive Chomping where
  /-- All are dropped. -/
  | strip
  /-- One stays. -/
  | clip
  /-- All stay. -/
  | keep
  deriving DecidableEq, Repr

/-- What the first line of a block of text says. -/
structure BlockHeader where
  /-- What becomes of the line ends behind the text. -/
  chomping : Chomping
  /-- How much further the text is indented than what is around it. -/
  increment : Option Nat

/-- The chomping that a sign stands for. -/
def chomping? : Char → Option Chomping
  | '+' => some .keep
  | '-' => some .strip
  | _ => none

/-- The indentation that a digit stands for. -/
def increment? (char : Char) : Option Nat :=
  if char.isDigit then some (char.toNat - 48) else none

/-- The first line of a block of text, with the cursor behind the mark. -/
def blockHeader (cursor : Cursor) : Except YamlError (BlockHeader × Cursor) := do
  let (sign, digit, after) :=
    match chomping? cursor.current with
    | some sign =>
      match increment? (cursor.ahead 1) with
      | some digit => (some sign, some digit, cursor.forward 2)
      | none => (some sign, none, cursor.forward 1)
    | none =>
      match increment? cursor.current with
      | some digit =>
        match chomping? (cursor.ahead 1) with
        | some sign => (some sign, some digit, cursor.forward 2)
        | none => (none, some digit, cursor.forward 1)
      | none => (none, none, cursor)
  if digit == some 0 || !isSpaceOrEnd after.current then .error .badBlockHeader
  else
    let after := after.skipSpaces.skipComment
    if !isBreakOrEnd after.current then .error .badBlockHeader
    else
      let after := match after.takeBreak? with
        | some (_, behind) => behind
        | none => after
      .ok (⟨sign.getD .clip, digit⟩, after)

/-- The empty lines from here on, with their widest indentation. -/
def leadingLines (cursor : Cursor) : Except YamlError ((List Char × Nat) × Cursor) :=
  Cursor.loop (.error .forbiddenCharacter)
    (fun (state : List Char × Nat) cursor =>
      let (breaks, widest) := state
      let after := cursor.skipSpaces
      let widest := max widest after.column
      match after.takeBreak? with
      | some (lineEnd, behind) => .ok (.inr ((lineEnd :: breaks, widest), behind))
      | none => .ok (.inl ((breaks.reverse, widest), after)))
    ([], 0) cursor

/-- The line ends of lines that hold nothing behind `indent` columns. -/
def blockBreaks (indent : Nat) (cursor : Cursor) : Except YamlError (List Char × Cursor) :=
  Cursor.loop (.error .forbiddenCharacter)
    (fun (breaks : List Char) cursor =>
      let after := cursor.skipSpacesUpTo (indent - cursor.column)
      match after.takeBreak? with
      | some (lineEnd, behind) => .ok (.inr (lineEnd :: breaks, behind))
      | none => .ok (.inl (breaks.reverse, after)))
    [] cursor

/-- What is known of a block of text that is being read. -/
structure BlockState where
  /-- The text so far, without the end of its last line. -/
  taken : List Char
  /-- The end of the last line. -/
  lineEnd : List Char
  /-- The line ends of the empty lines behind it. -/
  breaks : List Char

/-- The block of text at the cursor, which stands on its mark. `outer` is the first column of
what is around it, or -1. -/
def blockText (folds : Bool) (outer : Int) (cursor : Cursor) :
    Except YamlError (List Char × Cursor) := do
  let (header, cursor) ← blockHeader (cursor.forward 1)
  let least := (max 1 (outer + 1)).toNat
  let (indent, breaks, cursor) ←
    match header.increment with
    | none => do
      let ((breaks, widest), after) ← leadingLines cursor
      pure (max least widest, breaks, after)
    | some increment => do
      let indent := least + increment - 1
      let (breaks, after) ← blockBreaks indent cursor
      pure (indent, breaks, after)
  Cursor.loop (.error .forbiddenCharacter)
    (fun (state : BlockState) cursor =>
      if cursor.column == indent && !cursor.rest.isEmpty then do
        let plainStart := !(cursor.current == ' ' || cursor.current == '\t')
        let (line, after) := cursor.takeRun (fun char => !isBreak char)
        let (lineEnd, after) := match after.takeBreak? with
          | some (lineEnd, behind) => ([lineEnd], behind)
          | none => ([], after)
        let (breaks, after) ← blockBreaks indent after
        let taken := state.taken ++ state.breaks ++ line
        if after.column == indent && !after.rest.isEmpty then
          let joins := folds && lineEnd == ['\n'] && plainStart &&
            !(after.current == ' ' || after.current == '\t')
          let joint := if joins then (if breaks.isEmpty then [' '] else []) else lineEnd
          .ok (.inr (⟨taken ++ joint, lineEnd, breaks⟩, after))
        else .ok (.inr (⟨taken, lineEnd, breaks⟩, after))
      else
        let tail := match header.chomping with
          | .strip => []
          | .clip => state.lineEnd
          | .keep => state.lineEnd ++ state.breaks
        .ok (.inl (state.taken ++ tail, cursor)))
    ⟨[], [], breaks⟩ cursor

end Z80Monitor.Yaml
