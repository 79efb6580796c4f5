import Z80Monitor.Text.Utf8
import Z80Monitor.Yaml.BlockText
import Z80Monitor.Yaml.PlainText

/-!
# YAML tokens

The marks and texts that a YAML text consists of. A change of indentation is a token as well: it
starts or ends a block of entries.
-/

namespace Z80Monitor.Yaml

/-- A tag as it is written. -/
inductive TagName where
  /-- A tag given in full. -/
  | verbatim (suffix : List Char)
  /-- A handle with what follows it. -/
  | withHandle (handle suffix : List Char)
  deriving DecidableEq, Repr

/-- A directive in front of a document. -/
inductive Directive where
  /-- The version of the format. -/
  | version (major minor : Nat)
  /-- What a handle of tags stands for. -/
  | tag (handle meaning : List Char)
  /-- Any other directive. -/
  | other
  deriving DecidableEq, Repr

/-- A token. -/
inductive Token where
  /-- The end of the text. -/
  | textEnd
  /-- A directive. -/
  | directive (directive : Directive)
  /-- The mark at the start of a document. -/
  | documentStart
  /-- The mark at the end of a document. -/
  | documentEnd
  /-- Deeper indentation of list entries. -/
  | blockListStart
  /-- Deeper indentation of mapping entries. -/
  | blockMappingStart
  /-- The end of deeper indentation. -/
  | blockEnd
  /-- An opening square bracket. -/
  | flowListStart
  /-- A closing square bracket. -/
  | flowListEnd
  /-- An opening brace. -/
  | flowMappingStart
  /-- A closing brace. -/
  | flowMappingEnd
  /-- A comma. -/
  | flowEntry
  /-- A dash in front of a list entry. -/
  | blockEntry
  /-- The start of a key. -/
  | key
  /-- The start of a value. -/
  | value
  /-- An alias. -/
  | alias (name : List Char)
  /-- An anchor. -/
  | anchor (name : List Char)
  /-- A tag. -/
  | tag (name : TagName)
  /-- A text, and whether it is written without quotation marks. -/
  | scalar (text : List Text.CodePoint) (plain : Bool)
  deriving DecidableEq, Repr

/-- Take the name of an anchor or alias, with the cursor on its mark. -/
def anchorName (cursor : Cursor) : Except YamlError (List Char × Cursor) :=
  let (name, after) := (cursor.forward 1).takeRun isNameChar
  let ends := isGapOrEnd after.current ||
    ['?', ':', ',', ']', '\x7d', '%', '@', Char.ofNat 0x60].contains after.current
  if name.isEmpty || !ends then .error .badAnchor else .ok (name, after)

/-- Whether a character may stand in a tag. -/
def isTagChar (char : Char) : Bool :=
  char.isAlphanum || "-;/?:@&=+$,_.!~*'()[]%".toList.contains char

/-- A text without percent escapes, each of which stands for a byte of UTF-8. `pending` holds the
bytes of the escapes directly in front of the text, the last one first. -/
def unescapedBehind (pending : List UInt8) : List Char → Option (List Char)
  | '%' :: high :: low :: rest =>
    match Text.digitValue? high, Text.digitValue? low with
    | some high, some low => unescapedBehind (UInt8.ofNat (high * 16 + low) :: pending) rest
    | _, _ => none
  | '%' :: _ => none
  | char :: rest => do
    let front ← (Text.decodeUtf8 pending.reverse).toOption
    return front ++ char :: (← unescapedBehind [] rest)
  | [] => (Text.decodeUtf8 pending.reverse).toOption

/-- A text without percent escapes. -/
def unescaped (text : List Char) : Option (List Char) := unescapedBehind [] text

/-- Take the part of a tag behind its handle. -/
def tagSuffix (cursor : Cursor) : Except YamlError (List Char × Cursor) :=
  let (run, after) := cursor.takeRun isTagChar
  match unescaped run with
  | some suffix => if suffix.isEmpty then .error .badTag else .ok (suffix, after)
  | none => .error .badTag

/-- Take the handle of a tag: an exclamation mark, or a name between two. -/
def tagHandle (cursor : Cursor) : Except YamlError (List Char × Cursor) :=
  if cursor.current != '!' then .error .badTag
  else
    let (name, after) := (cursor.forward 1).takeRun isNameChar
    if name.isEmpty && after.current == ' ' then .ok (['!'], after)
    else if after.current == '!' then .ok (['!'] ++ name ++ ['!'], after.forward 1)
    else .error .badTag

/-- Take a tag, with the cursor on its exclamation mark. -/
def tagName (cursor : Cursor) : Except YamlError (TagName × Cursor) := do
  let (name, after) ←
    if cursor.ahead 1 == '<' then do
      let (suffix, after) ← tagSuffix (cursor.forward 2)
      if after.current == '>' then pure (TagName.verbatim suffix, after.forward 1)
      else .error .badTag
    else if isGapOrEnd (cursor.ahead 1) then pure (TagName.verbatim ['!'], cursor.forward 1)
    else
      let word := (cursor.rest.drop 1).takeWhile fun char => !isSpaceOrEnd char
      if word.contains '!' then do
        let (handle, after) ← tagHandle cursor
        let (suffix, after) ← tagSuffix after
        pure (TagName.withHandle handle suffix, after)
      else do
        let (suffix, after) ← tagSuffix (cursor.forward 1)
        pure (TagName.withHandle ['!'] suffix, after)
  if isSpaceOrEnd after.current then .ok (name, after) else .error .badTag

/-- Take a number of a directive. -/
def directiveNumber (cursor : Cursor) : Except YamlError (Nat × Cursor) :=
  let (digits, after) := cursor.takeRun Char.isDigit
  if digits.isEmpty then .error .badDirective
  else if Text.decimalDigitLimit < digits.length then .error (.integerTooLong digits.length)
  else .ok (Nat.ofDigitChars 10 digits 0, after)

/-- Take a directive, with the cursor on its percent sign. -/
def directive (cursor : Cursor) : Except YamlError (Directive × Cursor) := do
  let (name, after) := (cursor.forward 1).takeRun isNameChar
  if name.isEmpty || !isSpaceOrEnd after.current then .error .badDirective
  else
    let (found, after) ←
      if name == "YAML".toList then do
        let (major, after) ← directiveNumber after.skipSpaces
        if after.current != '.' then .error .badDirective
        else
          let (minor, after) ← directiveNumber (after.forward 1)
          if isSpaceOrEnd after.current then pure (Directive.version major minor, after)
          else .error .badDirective
      else if name == "TAG".toList then do
        let (handle, after) ← tagHandle after.skipSpaces
        if after.current != ' ' then .error .badDirective
        else
          let (meaning, after) ← tagSuffix after.skipSpaces
          if isSpaceOrEnd after.current then pure (Directive.tag handle meaning, after)
          else .error .badDirective
      else pure (Directive.other, after.skipRun fun char => !isBreak char)
    let after := after.skipSpaces.skipComment
    if isBreakOrEnd after.current then
      .ok (found, match after.takeBreak? with
        | some (_, behind) => behind
        | none => after)
    else .error .badDirective

end Z80Monitor.Yaml
