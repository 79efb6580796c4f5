import Z80Monitor.Yaml.Error
import Z80Monitor.Yaml.Node

/-!
# Merge keys

Under a merge key of a mapping stands another mapping, or a list of mappings, whose entries come
in front of those of the mapping itself. In such a list the entries of later mappings come before
those of earlier ones, which therefore count where both have a key. Resolving a merge key takes
it away, so the number of merge keys bounds the recursion even where a mapping merges itself.
-/

namespace Z80Monitor.Yaml

/-- Entries of mappings, each a key with its value. -/
abbrev Entries := List (NodeId × NodeId)

namespace Graph

/-- How many merge keys there are. -/
def mergeKeyCount (graph : Graph) : Nat :=
  graph.foldl
    (fun count node => match node.content with
      | .mapping entries => count + entries.countP fun entry => graph.hasTag .merge entry.1
      | _ => count)
    0

/-- Take the first merge key out of some entries: what stands under it, and the other entries. -/
def takeMerge? (graph : Graph) : Entries → Option (NodeId × Entries)
  | [] => none
  | (key, value) :: rest =>
    if graph.hasTag .merge key then some (value, rest)
    else (graph.takeMerge? rest).map fun (found, others) => (found, (key, value) :: others)

/-- Make the keys of default values texts like any other. -/
def withPlainKeys (graph : Graph) (entries : Entries) : Graph :=
  entries.foldl
    (fun graph (key, _) => if graph.hasTag .value key then graph.setTag key .str else graph) graph

/-- Resolve the merge keys of a mapping, where `merged` holds what those taken out so far give. -/
def mergeInto (fuel : Nat) (id : NodeId) (merged : Entries) (graph : Graph) :
    Except YamlError Graph :=
  match fuel with
  | 0 => .ok graph
  | fuel + 1 =>
    match graph.takeMerge? (graph.entriesOf id) with
    | none =>
      let entries := merged ++ graph.entriesOf id
      .ok ((graph.setContent id (.mapping entries)).withPlainKeys entries)
    | some (source, rest) => do
      let graph := graph.setContent id (.mapping rest)
      match graph[source]?.map (·.content) with
      | some (Content.mapping _) => do
        let graph ← mergeInto fuel source [] graph
        mergeInto fuel id (merged ++ graph.entriesOf source) graph
      | some (Content.list items) => do
        let (graph, fronts) ← items.foldlM
          (fun ((graph, fronts) : Graph × List Entries) item => do
            match graph[item]?.map (·.content) with
            | some (Content.mapping _) => do
              let graph ← mergeInto fuel item [] graph
              return (graph, graph.entriesOf item :: fronts)
            | _ => .error .badMerge)
          (graph, [])
        mergeInto fuel id (merged ++ fronts.flatten) graph
      | _ => .error .badMerge

/-- Resolve the merge keys of a mapping in a graph with at most `count` merge keys. -/
def resolveMerges (graph : Graph) (count : Nat) (id : NodeId) : Except YamlError Graph :=
  mergeInto (count + 1) id [] graph

end Graph

end Z80Monitor.Yaml
