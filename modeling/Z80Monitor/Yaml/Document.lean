import Z80Monitor.Yaml.Written

/-!
# YAML documents

The value of the only document of a text. Data without cycles becomes lists and mappings, each
collection once however often it is used. A list on a cycle keeps only its text, and a mapping on
a cycle its entries as deep as configurations go.
-/

namespace Z80Monitor.Yaml

/-- The collections directly inside a collection. -/
def Collection.members : Collection → List NodeId
  | .list items => items.filterMap collectionOf?
  | .mapping entries => entries.filterMap fun entry => collectionOf? entry.2
  | .pairs entries =>
    entries.flatMap fun entry => [entry.1, entry.2].filterMap collectionOf?
  | .set _ => []
where
  /-- The collection that a datum is, if it is one. -/
  collectionOf? : Datum → Option NodeId
    | .collection id => some id
    | .scalar _ => none

/-- The values of collections, by node, where they are known. -/
abbrev KnownValues := Array (Option Value)

namespace Data

/-! ## Data without cycles -/

/-- The value of a datum, if that of its collection is known. -/
def valueOf? (known : KnownValues) : Datum → Option Value
  | .scalar scalar => some scalar.toValue
  | .collection id =>
    match known[id]? with
    | some found => found
    | none => none

/-- A collection that no configuration asks for, of which only the text is kept. -/
def foreignValue (data : Data) (id : NodeId) (present : Bool) : Value :=
  let text := data.text (.collection id)
  .foreign (text.map Text.points) text present

/-- The value of a collection, if those of all collections inside are known. -/
def settledValue? (data : Data) (known : KnownValues) (id : NodeId) : Option Value := do
  match ← data.collection? id with
  | .list items => return .list (← items.mapM (valueOf? known))
  | .mapping entries =>
    let entries ← entries.mapM fun (key, value) => do
      return (key.value.toValue, ← valueOf? known value)
    return .mapping entries
  | .pairs entries =>
    let _ ← entries.mapM fun (key, value) => do
      return (← valueOf? known key, ← valueOf? known value)
    return data.foreignValue id (!entries.isEmpty)
  | .set keys => return data.foreignValue id (!keys.isEmpty)

/-- Note the values that follow from known ones, the last node first: a node stands in front of
those inside it, aliases apart. -/
def settleOnce (data : Data) (known : KnownValues) : KnownValues :=
  (List.range known.size).foldr
    (fun id (known : KnownValues) =>
      if (valueOf? known (.collection id)).isSome then known
      else known.setIfInBounds id (data.settledValue? known id))
    known

/-- The number of known values. -/
def knownCount (known : KnownValues) : Nat := known.foldl (fun count value =>
  if value.isSome then count + 1 else count) 0

/-- Note values until no further one follows. -/
def settle (data : Data) : (rounds : Nat) → KnownValues → KnownValues
  | 0, known => known
  | rounds + 1, known =>
    let next := data.settleOnce known
    if knownCount next = knownCount known then known else data.settle rounds next

/-! ## Data with cycles -/

/-- The nodes that are reached from some nodes by going into collections. -/
def reach (data : Data) : (rounds : Nat) → List NodeId → List NodeId
  | 0, seen => seen
  | rounds + 1, seen =>
    let inside := seen.flatMap fun id => ((data.collection? id).map Collection.members).getD []
    let fresh := (inside.filter fun id => !seen.contains id).eraseDups
    if fresh.isEmpty then seen else data.reach rounds (seen ++ fresh)

/-- Whether a collection holds itself, directly or inside others. -/
def isOnCycle (data : Data) (id : NodeId) : Bool :=
  let members := ((data.collection? id).map Collection.members).getD []
  (data.reach data.collections.size members).contains id

/-- How many mappings deep a configuration is read. -/
def readDepth : Nat := 3

/-- The value of a datum where some collections hold themselves. On a cycle mappings are opened
`depth` times. -/
def valueAt (data : Data) (known : KnownValues) (fuel depth : Nat) : Datum → Value
  | .scalar scalar => scalar.toValue
  | .collection id =>
    match fuel, valueOf? known (.collection id), data.collection? id with
    | _, some value, _ => value
    | 0, none, _ => data.foreignValue id true
    | fuel + 1, none, found =>
      match data.isOnCycle id, depth, found with
      | true, depth + 1, some (.mapping entries) =>
        .knot
          (entries.map fun (key, value) => (key.value.toValue, data.valueAt known fuel depth value))
          (data.text (.collection id))
      | false, depth, some (.list items) => .list (items.map (data.valueAt known fuel depth))
      | false, depth, some (.mapping entries) =>
        .mapping
          (entries.map fun (key, value) => (key.value.toValue, data.valueAt known fuel depth value))
      | _, _, _ => data.foreignValue id true

/-- The value of the data. -/
def value (data : Data) : Value :=
  let size := data.collections.size
  let known := data.settle (size + 1) (Array.replicate size none)
  data.valueAt known (size + readDepth + 1) readDepth data.root

end Data

/-- The value of a text; nothing for a text without a document. -/
def load (text : String) : Except YamlError Value := do
  match ← Document.ofText text.toList with
  | some document => return (← Data.ofDocument document).value
  | none => return .null

end Z80Monitor.Yaml
