import Z80Monitor.Yaml.Token

/-!
# The tokens of a YAML text

Cutting a text into tokens. Whether a text is a key shows only at the colon behind it, so the
place of every token that may start a key is kept until the colon is found or the line ends; the
token that marks the key is put in at that place. A key may be at most 1024 characters long.
-/

namespace Z80Monitor.Yaml

/-- A token that may turn out to start a key. -/
structure KeyCandidate where
  /-- How many tokens stand in front of it. -/
  position : Nat
  /-- Whether it must turn out to be a key. -/
  required : Bool
  /-- Where it starts, in characters. -/
  index : Nat
  /-- Its line. -/
  line : Nat
  /-- Its column. -/
  column : Nat

/-- The greatest length of a key. -/
def greatestKeyLength : Nat := 1024

/-- What is known of a text that is being cut into tokens. -/
structure Scan where
  /-- The tokens so far, the last one first. -/
  recent : List Token := []
  /-- How many tokens there are so far. -/
  count : Nat := 0
  /-- How many brackets are open. -/
  flowLevel : Nat := 0
  /-- The column of the innermost block of entries, or -1. -/
  indent : Int := -1
  /-- The columns of the blocks around it. -/
  outerIndents : List Int := []
  /-- Whether a key may start here. -/
  keyAllowed : Bool := true
  /-- The candidates for keys, by the number of brackets around them. -/
  candidates : List (Nat × KeyCandidate) := []

namespace Scan

/-- The tokens so far. -/
def tokens (scan : Scan) : List Token := scan.recent.reverse

/-- Add a token. -/
def push (scan : Scan) (token : Token) : Scan :=
  { scan with recent := token :: scan.recent, count := scan.count + 1 }

/-- Put a token in behind the first `position` tokens. -/
def putIn (scan : Scan) (position : Nat) (token : Token) : Scan :=
  let behind := scan.count - position
  { scan with
    recent := scan.recent.take behind ++ token :: scan.recent.drop behind
    count := scan.count + 1 }

/-- End the blocks of entries that are indented deeper than a column. -/
def unwind (scan : Scan) (column : Int) : List Int → Scan
  | [] => scan
  | outer :: rest =>
    if column < scan.indent then
      ({ scan with indent := outer, outerIndents := rest }.push .blockEnd).unwind column rest
    else scan

/-- End the blocks of entries that are indented deeper than a column, unless inside brackets. -/
def unwindTo (scan : Scan) (column : Int) : Scan :=
  if scan.flowLevel = 0 then scan.unwind column scan.outerIndents else scan

/-- Start a block of entries at a column, if it is deeper than the one around it. -/
def deepen (scan : Scan) (column : Nat) : Scan × Bool :=
  if scan.indent < column then
    ({ scan with
        indent := column
        outerIndents := scan.indent :: scan.outerIndents }, true)
  else (scan, false)

/-- Start a block of entries at a column, with the token that says so. -/
def deepenWith (scan : Scan) (column : Nat) (token : Token) : Scan :=
  let (scan, deeper) := scan.deepen column
  if deeper then scan.push token else scan

/-- The candidate for a key inside the brackets open here. -/
def candidate? (scan : Scan) : Option KeyCandidate :=
  scan.candidates.lookup scan.flowLevel

/-- Forget the candidate inside the brackets open here. -/
def forget (scan : Scan) : Scan :=
  { scan with candidates := scan.candidates.filter fun entry => entry.1 != scan.flowLevel }

/-- Forget the candidate inside the brackets open here, which must not be a required one. -/
def dropCandidate (scan : Scan) : Except YamlError Scan :=
  match scan.candidate? with
  | some candidate => if candidate.required then .error .keyWithoutColon else .ok scan.forget
  | none => .ok scan

/-- Forget the candidates that are on an earlier line or too long. -/
def dropStale (scan : Scan) (cursor : Cursor) : Except YamlError Scan :=
  let stale (candidate : KeyCandidate) : Bool :=
    candidate.line != cursor.line || greatestKeyLength < cursor.index - candidate.index
  if scan.candidates.any fun entry => stale entry.2 && entry.2.required then
    .error .keyWithoutColon
  else
    .ok { scan with candidates := scan.candidates.filter fun entry => !stale entry.2 }

/-- Note that the token about to be added may start a key. -/
def noteCandidate (scan : Scan) (cursor : Cursor) : Except YamlError Scan := do
  if scan.keyAllowed then
    let required := scan.flowLevel == 0 && scan.indent == cursor.column
    let scan ← scan.dropCandidate
    let candidate : KeyCandidate :=
      { position := scan.count
        required
        index := cursor.index
        line := cursor.line
        column := cursor.column }
    .ok { scan with candidates := (scan.flowLevel, candidate) :: scan.candidates }
  else .ok scan

/-- Add a token that may start a key, behind which no key may start. -/
def pushNode (scan : Scan) (token : Token) : Scan :=
  { scan.push token with keyAllowed := false }

/-- Add a document marker or a directive, which ends every block of entries. -/
def pushMarker (scan : Scan) (token : Token) : Except YamlError Scan := do
  let scan ← (scan.unwindTo (-1)).dropCandidate
  .ok { scan.push token with keyAllowed := false }

/-- Add an opening bracket. -/
def openFlow (scan : Scan) (token : Token) (cursor : Cursor) :
    Except YamlError Scan := do
  let scan ← scan.noteCandidate cursor
  .ok { scan.push token with flowLevel := scan.flowLevel + 1, keyAllowed := true }

/-- Add a closing bracket. -/
def closeFlow (scan : Scan) (token : Token) : Except YamlError Scan := do
  let scan ← scan.dropCandidate
  match scan.flowLevel with
  | 0 => .error .unmatchedBracket
  | level + 1 => .ok { scan.push token with flowLevel := level, keyAllowed := false }

/-- Add a dash or a question mark that starts an entry; `start` is the token of the block of
entries that it may start. -/
def pushEntry (scan : Scan) (token start : Token) (keyAllowed : Bool) (cursor : Cursor) :
    Except YamlError Scan := do
  let scan ←
    if scan.flowLevel = 0 then
      if scan.keyAllowed then pure (scan.deepenWith cursor.column start)
      else .error .misplacedIndicator
    else pure scan
  let scan ← scan.dropCandidate
  .ok { scan.push token with keyAllowed }

/-- Add a colon: the candidate in front of it, if there is one, is a key. -/
def pushValue (scan : Scan) (cursor : Cursor) : Except YamlError Scan := do
  match scan.candidate? with
  | some candidate =>
    let scan := scan.forget.putIn candidate.position .key
    let scan :=
      if scan.flowLevel = 0 then
        let (scan, deeper) := scan.deepen candidate.column
        if deeper then scan.putIn candidate.position .blockMappingStart else scan
      else scan
    .ok { scan.push .value with keyAllowed := false }
  | none =>
    if scan.flowLevel = 0 then
      if scan.keyAllowed then
        let scan ← (scan.deepenWith cursor.column .blockMappingStart).dropCandidate
        .ok { scan.push .value with keyAllowed := true }
      else .error .misplacedIndicator
    else .ok { scan.push .value with keyAllowed := false }

end Scan

/-- Move over blanks, comments and line ends. Behind a line end a key may start, unless inside
brackets. A byte order mark at the start of the text is passed over. -/
def skipToToken (scan : Scan) (cursor : Cursor) : Except YamlError (Scan × Cursor) :=
  let cursor :=
    if cursor.index == 0 && cursor.current.toNat == 0xFEFF then cursor.forward 1 else cursor
  Cursor.loop (.error .forbiddenCharacter)
    (fun (scan : Scan) cursor =>
      let cursor := cursor.skipSpaces.skipComment
      match cursor.takeBreak? with
      | some (_, after) =>
        .ok (.inr ({ scan with keyAllowed := scan.keyAllowed || scan.flowLevel == 0 },
          after))
      | none => .ok (.inl (scan, cursor)))
    scan cursor

/-- Whether a plain text may start at the cursor. -/
def startsPlain (inFlow : Bool) (cursor : Cursor) : Bool :=
  let char := cursor.current
  let special := "-?:,[]#&*!|>'\"%@".toList ++ ['\x7b', '\x7d', Char.ofNat 0x60]
  !(isGapOrEnd char || special.contains char) ||
    (!isGapOrEnd (cursor.ahead 1) &&
      (char == '-' || (!inFlow && (char == '?' || char == ':'))))

/-- Add the text, anchor, alias or tag at the cursor. -/
def scanNode (scan : Scan) (cursor : Cursor) : Except YamlError (Scan × Cursor) := do
  let char := cursor.current
  let inFlow := scan.flowLevel != 0
  if !inFlow && (char == '|' || char == '>') then
    let scan ← scan.dropCandidate
    let (text, after) ← blockText (char == '>') scan.indent cursor
    .ok ({ scan.push (.scalar (Text.points text) false) with keyAllowed := true }, after)
  else
    let noted ← scan.noteCandidate cursor
    if char == '*' then
      let (name, after) ← anchorName cursor
      .ok (noted.pushNode (.alias name), after)
    else if char == '&' then
      let (name, after) ← anchorName cursor
      .ok (noted.pushNode (.anchor name), after)
    else if char == '!' then
      let (name, after) ← tagName cursor
      .ok (noted.pushNode (.tag name), after)
    else if char == '\'' || char == '"' then
      let (text, after) ← quotedText char (cursor.forward 1)
      .ok (noted.pushNode (.scalar text false), after)
    else if startsPlain inFlow cursor then
      let (found, after) ← plainText inFlow (scan.indent + 1).toNat cursor
      let token := Token.scalar (Text.points found.text) true
      .ok ({ noted.push token with keyAllowed := found.keyMayFollow }, after)
    else .error (.noToken char)

/-- Add the token at the cursor, which is not at the end of the text. -/
def scanToken (scan : Scan) (cursor : Cursor) : Except YamlError (Scan × Cursor) := do
  let char := cursor.current
  let inFlow := scan.flowLevel != 0
  let gapFollows := isGapOrEnd (cursor.ahead 1)
  let mark (count : Nat) (scan : Except YamlError Scan) :
      Except YamlError (Scan × Cursor) := do .ok (← scan, cursor.forward count)
  if char == '%' && cursor.column == 0 then
    let (found, after) ← directive cursor
    .ok (← scan.pushMarker (.directive found), after)
  else if cursor.column == 0 && cursor.atMarker '-' then
    mark 3 (scan.pushMarker .documentStart)
  else if cursor.column == 0 && cursor.atMarker '.' then mark 3 (scan.pushMarker .documentEnd)
  else if char == '[' then mark 1 (scan.openFlow .flowListStart cursor)
  else if char == '\x7b' then mark 1 (scan.openFlow .flowMappingStart cursor)
  else if char == ']' then mark 1 (scan.closeFlow .flowListEnd)
  else if char == '\x7d' then mark 1 (scan.closeFlow .flowMappingEnd)
  else if char == ',' then
    let scan ← scan.dropCandidate
    .ok ({ scan.push .flowEntry with keyAllowed := true }, cursor.forward 1)
  else if char == '-' && gapFollows then
    mark 1 (scan.pushEntry .blockEntry .blockListStart true cursor)
  else if char == '?' && (inFlow || gapFollows) then
    mark 1 (scan.pushEntry .key .blockMappingStart (!inFlow) cursor)
  else if char == ':' && (inFlow || gapFollows) then mark 1 (scan.pushValue cursor)
  else scanNode scan cursor

/-- Whether a character may stand in a YAML text. -/
def isAllowed (char : Char) : Bool :=
  let code := char.toNat
  code == 0x09 || code == 0x0A || code == 0x0D || (0x20 ≤ code && code ≤ 0x7E) || code == 0x85 ||
    (0xA0 ≤ code && code ≤ 0xD7FF) || (0xE000 ≤ code && code ≤ 0xFFFD) || 0x10000 ≤ code

/-- The tokens of a text as far as they can be told, and why the others cannot. -/
structure TokenStream where
  /-- The tokens, the last of which is the end of the text unless there is a failure. -/
  tokens : List Token
  /-- Why no further token can be told. -/
  failure : Option YamlError := none

/-- The tokens that can be told at a place where the next one cannot: a token is settled once it
is known whether it starts a key, and so are those in front of it. -/
def Scan.settled (scan : Scan) (cursor : Cursor) : List Token :=
  let waiting := match scan.dropStale cursor with
    | .ok scan => scan.candidates
    | .error _ => scan.candidates
  scan.tokens.take (waiting.foldl (fun count entry => min count entry.2.position) scan.count)

/-- Add the next token, or the last ones where the text ends. -/
def scanNext (scan : Scan) (cursor : Cursor) :
    Except YamlError (List Token ⊕ (Scan × Cursor)) := do
  let (scan, cursor) ← skipToToken scan cursor
  let scan ← scan.dropStale cursor
  let scan := scan.unwindTo cursor.column
  if cursor.rest.isEmpty then
    let scan ← (scan.unwindTo (-1)).dropCandidate
    return .inl (scan.tokens ++ [.textEnd])
  else return .inr (← scanToken scan cursor)

/-- The tokens of a text. A text with a character that may not stand in it has none. -/
def TokenStream.ofText (text : List Char) : Except YamlError TokenStream :=
  if text.all isAllowed then
    Cursor.loop (.error .forbiddenCharacter)
      (fun (scan : Scan) cursor =>
        match scanNext scan cursor with
        | .ok (.inl tokens) => .ok (.inl ⟨tokens, none⟩)
        | .ok (.inr next) => .ok (.inr next)
        | .error error => .ok (.inl ⟨scan.settled cursor, some error⟩))
      {} ⟨text, 0, 0, 0⟩
  else .error .forbiddenCharacter

end Z80Monitor.Yaml
