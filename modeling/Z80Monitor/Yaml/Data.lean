import Z80Monitor.Yaml.Merge
import Z80Monitor.Yaml.Reading
import Z80Monitor.Yaml.Scalar

/-!
# Data of a document

What the nodes of a document stand for. A scalar is read where it is met. A collection is only
noted, and its members are read after those of all collections noted before it; so a collection
can hold itself, and of several faults the one that is met first in this order is reported.
-/

namespace Z80Monitor.Yaml

/-- What a node stands for: a scalar, or the collection of a node. -/
inductive Datum where
  /-- A scalar. -/
  | scalar (value : Scalar)
  /-- The collection of a node. -/
  | collection (id : NodeId)
  deriving DecidableEq, Repr

/-- A key of a mapping. -/
structure Key where
  /-- The node it was read from. -/
  node : NodeId
  /-- What it is. -/
  value : Scalar
  deriving DecidableEq, Repr

/-- Whether two keys are the same: a key is the same as itself whatever it is. -/
def Key.same (left right : Key) : Bool := left.node == right.node || left.value.same right.value

/-- What a list, a mapping or a set holds. -/
inductive Collection where
  /-- Members in order. -/
  | list (items : List Datum)
  /-- Entries in order, with every key once. -/
  | mapping (entries : List (Key × Datum))
  /-- Entries in order, whatever their keys. -/
  | pairs (entries : List (Datum × Datum))
  /-- Members, each of them once. -/
  | set (keys : List Key)
  deriving DecidableEq, Repr

/-- Put the value of a key in the place of an earlier one, or else at the end. -/
def insertEntry (key : Key) (value : Datum) : List (Key × Datum) → List (Key × Datum)
  | [] => [(key, value)]
  | (present, old) :: rest =>
    if present.same key then (present, value) :: rest
    else (present, old) :: insertEntry key value rest

/-- What is known while data is read. -/
structure DataReader where
  /-- The nodes. -/
  graph : Graph
  /-- What each node stands for, where that is known. -/
  data : Array (Option Datum)
  /-- What the collection of each node holds, where that is known. -/
  collections : Array (Option Collection)
  /-- The nodes of the collections that were met, in order. -/
  order : Array NodeId := #[]

/-- Reading of data, which may fail. -/
abbrev DataReading := StateT DataReader (Except YamlError)

namespace DataReading

/-- Refuse the document. -/
def refuse {Result : Type} (error : YamlError) : DataReading Result := fun _ => .error error

/-- What a node consists of. -/
def contentOf (id : NodeId) : DataReading (Option Content) := do
  return (← get).graph[id]?.map (·.content)

/-- The text of a node that is read as a scalar. A mapping stands for the default value in it. -/
def scalarText (graph : Graph) (fuel : Nat) (id : NodeId) :
    Except YamlError (List Text.CodePoint) :=
  match fuel with
  | 0 => .error .tooDeep
  | fuel + 1 =>
    match graph[id]?.map (·.content) with
    | some (Content.text text) => .ok text
    | some (Content.mapping entries) =>
      match entries.find? fun entry => graph.hasTag .value entry.1 with
      | some (_, value) => scalarText graph fuel value
      | none => .error .unfitTag
    | _ => .error .unfitTag

/-- The scalar that a node with a tag stands for. A timestamp is read from its own text only. -/
def scalar (id : NodeId) (tag : Tag) : DataReading Scalar := do
  if !tag.isScalar then refuse .unknownTag
  else
    let graph := (← get).graph
    let text ← scalarText graph (graph.size + 1) id
    match tag, ← contentOf id with
    | .timestamp, some (Content.mapping _) => refuse .timestampMapping
    | _, _ => Scalar.read tag text

/-- What a node stands for; a collection that was not met before is noted. -/
def datum (id : NodeId) : DataReading Datum := do
  match (← get).data[id]? with
  | some (some found) => return found
  | _ =>
    let tag := (← get).graph.tagOf id
    let found ←
      if tag.isCollection then do
        modify fun reader => { reader with order := reader.order.push id }
        pure (Datum.collection id)
      else do pure (Datum.scalar (← scalar id tag))
    modify fun reader => { reader with data := reader.data.setIfInBounds id (some found) }
    return found

/-- The key that a node stands for. -/
def key (id : NodeId) : DataReading Key := do
  match ← datum id with
  | .scalar value => return ⟨id, value⟩
  | .collection _ => refuse .collectionAsKey

/-- The entries of a mapping, its merge keys resolved. Of entries with the same key the last one
counts, in the place of the first. -/
def entries (mergeKeys : Nat) (id : NodeId) : DataReading (List (Key × Datum)) := do
  match ← contentOf id with
  | some (Content.mapping _) =>
    let graph ← (← get).graph.resolveMerges mergeKeys id
    modify fun reader => { reader with graph }
    (graph.entriesOf id).foldlM
      (fun found (name, content) => do
        let name ← key name
        let content ← datum content
        return insertEntry name content found)
      []
  | _ => refuse .unfitTag

/-- The entry of a mapping that has only one. -/
def soleEntry (id : NodeId) : DataReading (Datum × Datum) := do
  match ← contentOf id with
  | some (Content.mapping [(name, content)]) =>
    let name ← datum name
    return (name, ← datum content)
  | _ => refuse .unfitTag

/-- What the collection of a node holds. -/
def collection (mergeKeys : Nat) (id : NodeId) : DataReading Collection := do
  match (← get).graph.tagOf id, ← contentOf id with
  | .map, _ => return .mapping (← entries mergeKeys id)
  | .set, _ => return .set ((← entries mergeKeys id).map (·.1))
  | .seq, some (Content.list items) => return .list (← items.mapM datum)
  | _, some (Content.list items) => return .pairs (← items.mapM soleEntry)
  | _, _ => refuse .unfitTag

/-- Read the collections that were met, from the one with a number in order on. As every node is
met at most once, as many steps are enough as there are nodes. -/
def collectionsFrom (mergeKeys : Nat) : (steps number : Nat) → DataReading Unit
  | 0, _ => return ()
  | steps + 1, number => do
    match (← get).order[number]? with
    | none => return ()
    | some id =>
      let found ← collection mergeKeys id
      modify fun reader =>
        { reader with collections := reader.collections.setIfInBounds id (some found) }
      collectionsFrom mergeKeys steps (number + 1)

end DataReading

/-- The data of a document. -/
structure Data where
  /-- What the root stands for. -/
  root : Datum
  /-- What the collection of each node holds. -/
  collections : Array (Option Collection)

/-- The data of a document. -/
def Data.ofDocument (document : Document) : Except YamlError Data := do
  let graph := document.graph
  let reader : DataReader :=
    { graph
      data := Array.replicate graph.size none
      collections := Array.replicate graph.size none }
  let read : DataReading Datum := do
    let root ← DataReading.datum document.root
    DataReading.collectionsFrom graph.mergeKeyCount graph.size 0
    return root
  let (root, reader) ← read.run reader
  return ⟨root, reader.collections⟩

end Z80Monitor.Yaml
