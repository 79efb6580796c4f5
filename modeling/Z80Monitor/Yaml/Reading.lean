import Z80Monitor.Yaml.Node
import Z80Monitor.Yaml.Tokens

/-!
# Reading nodes

The graph that the tokens of a text describe. An alias stands for the node of the anchor with its
name, which is known from its first token on. Reading takes at least one token for every step
forward, which bounds the recursion, and goes down to a fixed depth only.
-/

namespace Z80Monitor.Yaml

open Text (CodePoint)

/-- How deep nodes may be nested. -/
def greatestDepth : Nat := 490

/-- What is known while nodes are read. -/
structure NodeReader where
  /-- The tokens that are left. -/
  stream : TokenStream
  /-- The nodes so far. -/
  nodes : Graph := #[]
  /-- The anchors so far, each with its node. -/
  anchors : List (List Char × NodeId) := []
  /-- What the handles of tags stand for. -/
  handles : List (List Char × List Char) := []

/-- Reading of nodes, which may fail. -/
abbrev Reading := StateT NodeReader (Except YamlError)

namespace Reading

/-- Refuse the text. -/
def refuse {Result : Type} (error : YamlError) : Reading Result := fun _ => .error error

/-- The next token, which stays. -/
def peek : Reading Token := do
  let stream := (← get).stream
  match stream.tokens, stream.failure with
  | token :: _, _ => return token
  | [], some error => refuse error
  | [], none => return .textEnd

/-- Drop the next token. -/
def drop : Reading Unit :=
  modify fun reader =>
    { reader with stream := { reader.stream with tokens := reader.stream.tokens.tail } }

/-- Drop the next token if it is the given one, and say whether it was. -/
def accept (token : Token) : Reading Bool := do
  if (← peek) == token then
    drop
    return true
  else return false

/-- Drop the next token, which must be the given one. -/
def expect (token : Token) : Reading Unit := do
  if !(← accept token) then refuse .unexpectedToken

/-- The handles that stand for something without a directive. -/
def defaultHandles : List (List Char × List Char) :=
  [("!".toList, "!".toList), ("!!".toList, standardTags)]

/-- The name of a tag with its handle replaced by what it stands for. -/
def fullName (name : TagName) : Reading (List Char) := do
  match name with
  | .verbatim suffix => return suffix
  | .withHandle handle suffix =>
    match (← get).handles.lookup handle with
    | some meaning => return meaning ++ suffix
    | none => refuse .unknownTag

/-- What stands in front of a node: the name of an anchor and a tag, in either order. -/
structure Properties where
  /-- The name of the anchor. -/
  anchor : Option (List Char) := none
  /-- The tag, with its handle replaced. -/
  tag : Option (List Char) := none

/-- Take the tag of a node, if one stands here. -/
def takeTag : Reading (Option TagName) := do
  match ← peek with
  | .tag name =>
    drop
    return some name
  | _ => return none

/-- Take the anchor of a node, if one stands here. -/
def takeAnchor : Reading (Option (List Char)) := do
  match ← peek with
  | .anchor name =>
    drop
    return some name
  | _ => return none

/-- Take what stands in front of a node. -/
def takeProperties : Reading Properties := do
  match ← takeAnchor with
  | some anchor =>
    let tag ← takeTag
    return ⟨some anchor, ← tag.mapM fullName⟩
  | none =>
    match ← takeTag with
    | some tag =>
      let anchor ← takeAnchor
      return ⟨anchor, some (← fullName tag)⟩
    | none => return {}

/-- Whether anything stands in front of a node. -/
def Properties.areGiven (properties : Properties) : Bool :=
  properties.anchor.isSome || properties.tag.isSome

/-- The tag of a scalar: the one given, or what the text stands for where it is written without
quotation marks or behind a lone exclamation mark. -/
def Properties.scalarTag (properties : Properties) (text : List CodePoint) (plain : Bool) : Tag :=
  match properties.tag with
  | none => if plain then .ofPlain (Text.standIns text) else .str
  | some name => if name == ['!'] then .ofPlain (Text.standIns text) else .ofName name

/-- The tag of a list or a mapping. -/
def Properties.collectionTag (properties : Properties) (usual : Tag) : Tag :=
  match properties.tag with
  | none => usual
  | some name => if name == ['!'] then usual else .ofName name

/-- Add a node that has no anchor. -/
def add (node : Node) : Reading NodeId :=
  modifyGet fun reader => (reader.nodes.size, { reader with nodes := reader.nodes.push node })

/-- Add a node with its anchor, whose name no other anchor may have. -/
def addAnchored (properties : Properties) (node : Node) : Reading NodeId := do
  match properties.anchor with
  | none => add node
  | some name =>
    if ((← get).anchors.lookup name).isSome then refuse .repeatedAnchor
    else
      let id ← add node
      modify fun reader => { reader with anchors := (name, id) :: reader.anchors }
      return id

/-- Give a node its contents. -/
def fill (id : NodeId) (content : Content) : Reading NodeId := do
  modify fun reader => { reader with nodes := reader.nodes.setContent id content }
  return id

/-- The node of an alias. -/
def aliased (name : List Char) : Reading NodeId := do
  match (← get).anchors.lookup name with
  | some id => return id
  | none => refuse .unknownAlias

/-- Add the node of an empty place. -/
def addEmpty : Reading NodeId := add .empty

/-- Add a scalar with what stands in front of it. -/
def addScalar (properties : Properties) (text : List CodePoint) (plain : Bool) : Reading NodeId :=
  addAnchored properties ⟨properties.scalarTag text plain, .text text⟩

/-- Where a node stands: that decides which tokens may start it. -/
inductive Place where
  /-- In a block, as the value of a key, where a list needs no deeper indentation. -/
  | entry
  /-- Elsewhere in a block. -/
  | block
  /-- Inside brackets. -/
  | flow
  deriving DecidableEq

/-- Whether a place inside a block of entries is empty: the next token belongs to what is around
it. -/
def endsEntry (token : Token) : Bool :=
  [Token.key, .value, .blockEnd].contains token

mutual

/-- Read a node. -/
def node (fuel depth : Nat) (place : Place) : Reading NodeId := do
  match fuel, depth with
  | 0, _ => refuse .unexpectedToken
  | _, 0 => refuse .tooDeep
  | fuel + 1, depth + 1 =>
    match ← peek with
    | .alias name =>
      drop
      aliased name
    | _ => content fuel depth place (← takeProperties)

/-- Read a node behind its anchor and tag. -/
def content (fuel depth : Nat) (place : Place) (properties : Properties) : Reading NodeId := do
  match fuel with
  | 0 => refuse .unexpectedToken
  | fuel + 1 =>
    match place, ← peek with
    | .entry, .blockEntry =>
      let id ← addAnchored properties ⟨properties.collectionTag .seq, .list []⟩
      fill id (.list (← plainList fuel depth))
    | _, .scalar text plain =>
      drop
      addScalar properties text plain
    | _, .flowListStart =>
      let id ← addAnchored properties ⟨properties.collectionTag .seq, .list []⟩
      drop
      fill id (.list (← flowList fuel depth true))
    | _, .flowMappingStart =>
      let id ← addAnchored properties ⟨properties.collectionTag .map, .mapping []⟩
      drop
      fill id (.mapping (← flowMapping fuel depth true))
    | .flow, _ =>
      if properties.areGiven then addScalar properties [] true else refuse .unexpectedToken
    | _, .blockListStart =>
      let id ← addAnchored properties ⟨properties.collectionTag .seq, .list []⟩
      drop
      fill id (.list (← blockList fuel depth))
    | _, .blockMappingStart =>
      let id ← addAnchored properties ⟨properties.collectionTag .map, .mapping []⟩
      drop
      fill id (.mapping (← blockMapping fuel depth))
    | _, _ =>
      if properties.areGiven then addScalar properties [] true else refuse .unexpectedToken

/-- Read the entries of a list that has its own indentation. -/
def blockList (fuel depth : Nat) : Reading (List NodeId) := do
  match fuel with
  | 0 => refuse .unexpectedToken
  | fuel + 1 =>
    if ← accept .blockEntry then
      let next ← peek
      let item ← if next == .blockEntry || next == .blockEnd then addEmpty
        else node fuel depth .block
      return item :: (← blockList fuel depth)
    else
      expect .blockEnd
      return []

/-- Read the entries of a list that is indented like the key in front of it. -/
def plainList (fuel depth : Nat) : Reading (List NodeId) := do
  match fuel with
  | 0 => refuse .unexpectedToken
  | fuel + 1 =>
    if ← accept .blockEntry then
      let next ← peek
      let item ← if next == .blockEntry || endsEntry next then addEmpty
        else node fuel depth .block
      return item :: (← plainList fuel depth)
    else return []

/-- Read the entries of a mapping in a block. -/
def blockMapping (fuel depth : Nat) : Reading (List (NodeId × NodeId)) := do
  match fuel with
  | 0 => refuse .unexpectedToken
  | fuel + 1 =>
    if ← accept .key then
      let key ← if endsEntry (← peek) then addEmpty else node fuel depth .entry
      let value ←
        if ← accept .value then
          if endsEntry (← peek) then addEmpty else node fuel depth .entry
        else addEmpty
      return (key, value) :: (← blockMapping fuel depth)
    else
      expect .blockEnd
      return []

/-- Read the entries of a list in brackets. -/
def flowList (fuel depth : Nat) (first : Bool) : Reading (List NodeId) := do
  match fuel with
  | 0 => refuse .unexpectedToken
  | fuel + 1 =>
    if ← accept .flowListEnd then return []
    else
      if !first then expect .flowEntry
      if ← accept .flowListEnd then return []
      else
        let item ←
          if ← accept .key then do
            let id ← add ⟨.map, .mapping []⟩
            fill id (.mapping [← flowPair fuel depth .flowListEnd])
          else node fuel depth .flow
        return item :: (← flowList fuel depth false)

/-- Read a key and its value in brackets, behind the token of the key. -/
def flowPair (fuel depth : Nat) (closing : Token) : Reading (NodeId × NodeId) := do
  match fuel with
  | 0 => refuse .unexpectedToken
  | fuel + 1 =>
    let next ← peek
    let key ← if next == .value || next == .flowEntry || next == closing then addEmpty
      else node fuel depth .flow
    let value ←
      if ← accept .value then
        let next ← peek
        if next == .flowEntry || next == closing then addEmpty else node fuel depth .flow
      else addEmpty
    return (key, value)

/-- Read the entries of a mapping in braces. -/
def flowMapping (fuel depth : Nat) (first : Bool) : Reading (List (NodeId × NodeId)) := do
  match fuel with
  | 0 => refuse .unexpectedToken
  | fuel + 1 =>
    if ← accept .flowMappingEnd then return []
    else
      if !first then expect .flowEntry
      if ← accept .flowMappingEnd then return []
      else
        let entry ←
          if ← accept .key then flowPair fuel depth .flowMappingEnd
          else do
            let key ← node fuel depth .flow
            pure (key, ← addEmpty)
        return entry :: (← flowMapping fuel depth false)

end

/-- Take the directives in front of a document. -/
def directives (fuel : Nat) (versionSeen : Bool) (handles : List (List Char × List Char)) :
    Reading (List (List Char × List Char)) := do
  match fuel with
  | 0 => return handles
  | fuel + 1 =>
    match ← peek with
    | .directive found =>
      drop
      match found with
      | .version major _ =>
        if versionSeen || major != 1 then refuse .badDirective
        else directives fuel true handles
      | .tag handle meaning =>
        if (handles.lookup handle).isSome then refuse .badDirective
        else directives fuel versionSeen ((handle, meaning) :: handles)
      | .other => directives fuel versionSeen handles
    | _ => return handles

/-- Take the directives and the marker in front of a document. They decide what the handles of
tags stand for. -/
def takeHeader (fuel : Nat) : Reading Unit := do
  let handles ← directives fuel false []
  expect .documentStart
  modify fun reader => { reader with handles := handles ++ defaultHandles }

/-- Read the root of a document behind its marker. -/
def markedRoot (fuel : Nat) : Reading NodeId := do
  match ← peek with
  | .directive _ | .documentStart | .documentEnd | .textEnd => addEmpty
  | _ => node fuel greatestDepth .block

/-- Drop marks at the ends of documents. -/
def dropEnds : Nat → Reading Unit
  | 0 => pure ()
  | fuel + 1 => do if ← accept .documentEnd then dropEnds fuel

/-- Make sure that no document follows. -/
def finish (fuel : Nat) : Reading Unit := do
  dropEnds fuel
  if (← peek) != .textEnd then
    takeHeader fuel
    refuse .severalDocuments

/-- Read the only document of a text, if it has one. -/
def document (fuel : Nat) : Reading (Option NodeId) := do
  match ← peek with
  | .textEnd => return none
  | .directive _ | .documentStart =>
    takeHeader fuel
    let root ← markedRoot fuel
    finish fuel
    return some root
  | _ =>
    modify fun reader => { reader with handles := defaultHandles }
    let root ← node fuel greatestDepth .block
    finish fuel
    return some root

end Reading

/-- A document. -/
structure Document where
  /-- The nodes. -/
  graph : Graph
  /-- The node that all others belong to. -/
  root : NodeId

/-- The document that a text holds, if it holds one. -/
def Document.ofText (text : List Char) : Except YamlError (Option Document) := do
  let stream ← TokenStream.ofText text
  let (root, reader) ← (Reading.document (4 * stream.tokens.length + 4)).run { stream }
  return root.map fun root => ⟨reader.nodes, root⟩

end Z80Monitor.Yaml
