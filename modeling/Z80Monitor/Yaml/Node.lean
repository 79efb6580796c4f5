import Z80Monitor.Text.Surrogate
import Z80Monitor.Yaml.Tag

/-!
# YAML nodes

The graph that a document describes: texts, lists and mappings, each with its tag. A node stands
in as many places as aliases say, even inside itself, so lists and mappings hold the numbers of
nodes.
-/

namespace Z80Monitor.Yaml

open Text (CodePoint)

/-- The number of a node in its graph. -/
abbrev NodeId := Nat

/-- What a node consists of. -/
inductive Content where
  /-- A text. -/
  | text (text : List CodePoint)
  /-- Nodes in order. -/
  | list (items : List NodeId)
  /-- Entries in order, each a key with its value. -/
  | mapping (entries : List (NodeId × NodeId))
  deriving DecidableEq, Repr

/-- A node. -/
structure Node where
  /-- The tag. -/
  tag : Tag
  /-- What the node consists of. -/
  content : Content
  deriving DecidableEq, Repr

/-- The node of an empty place. -/
def Node.empty : Node := ⟨.null, .text []⟩

/-- The nodes of a document. -/
abbrev Graph := Array Node

namespace Graph

/-- The entries of a mapping; other nodes have none. -/
def entriesOf (graph : Graph) (id : NodeId) : List (NodeId × NodeId) :=
  match graph[id]? with
  | some ⟨_, .mapping entries⟩ => entries
  | _ => []

/-- The tag of a node. -/
def tagOf (graph : Graph) (id : NodeId) : Tag := (graph[id]?.map (·.tag)).getD .other

/-- Whether a node has a tag. -/
def hasTag (graph : Graph) (tag : Tag) (id : NodeId) : Bool := graph.tagOf id == tag

/-- Give a node other contents. -/
def setContent (graph : Graph) (id : NodeId) (content : Content) : Graph :=
  graph.modify id fun node => { node with content }

/-- Give a node another tag. -/
def setTag (graph : Graph) (id : NodeId) (tag : Tag) : Graph :=
  graph.modify id fun node => { node with tag }

end Graph

end Z80Monitor.Yaml
