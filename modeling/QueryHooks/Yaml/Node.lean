import QueryHooks.Yaml.Cursor
import QueryHooks.Yaml.Tag

/-!
The nodes of a YAML document: scalars, sequences and mappings, each with its kind. Nodes are numbered, and
collections refer to their parts by number, so that a node can be part of several, and of itself.
-/

namespace QueryHooks.Yaml

abbrev NodeId := Nat

inductive Content
  | scalar (text : String)
  | sequence (items : List NodeId)
  | mapping (entries : List (NodeId × NodeId))
deriving DecidableEq, Repr, Inhabited

structure Node where
  tag : Tag
  content : Content
deriving DecidableEq, Repr

namespace Node

/-- The node that stands where nothing is written. -/
def empty : Node := ⟨.null, .scalar ""⟩

end Node

structure Graph where
  nodes : Array Node

namespace Graph

def empty : Graph := ⟨#[]⟩

def node (g : Graph) (id : NodeId) : Node := g.nodes.getD id .empty

def add (g : Graph) (n : Node) : NodeId × Graph := (g.nodes.size, ⟨g.nodes.push n⟩)

def set (g : Graph) (id : NodeId) (n : Node) : Graph := ⟨g.nodes.setIfInBounds id n⟩

def entries (g : Graph) (id : NodeId) : List (NodeId × NodeId) :=
  match (g.node id).content with
  | .mapping entries => entries
  | _ => []

def setContent (g : Graph) (id : NodeId) (content : Content) : Graph := g.set id { g.node id with content := content }

def setTag (g : Graph) (id : NodeId) (tag : Tag) : Graph := g.set id { g.node id with tag := tag }

end Graph

/-- A document: its nodes and the number of its root. -/
structure Tree where
  graph : Graph
  root : NodeId

end QueryHooks.Yaml

/-!
Merging. A mapping takes over the entries of the mappings under its merge keys, and they come before its
own. What a mapping takes over it keeps, also for other mappings that merge it later. Merge keys are taken
away one by one, so mappings that merge each other come to an end.
-/

namespace QueryHooks.Yaml.Graph

def isMergeKey (g : Graph) (id : NodeId) : Bool := (g.node id).tag == .merge

def mergeCount (g : Graph) : Nat :=
  g.nodes.foldl (fun count n =>
    match n.content with
    | .mapping entries => count + (entries.filter fun e => g.isMergeKey e.1).length
    | _ => count) 0

/-- Where the first merge key of entries stands, and what it merges. -/
def firstMerge (g : Graph) : List (NodeId × NodeId) → Option (Nat × NodeId)
  | [] => none
  | (key, source) :: rest =>
      if g.isMergeKey key then some (0, source)
      else (g.firstMerge rest).map fun (place, source) => (place + 1, source)

/-- Keys of default values are texts in a mapping that is read for its entries. -/
def nameDefaults (g : Graph) (keys : List NodeId) : Graph :=
  keys.foldl (fun g key => if (g.node key).tag == .defaultValue then g.setTag key .text else g) g

private def badMerge {α : Type} : Except Failure α := .error (.malformed .badMerge)

/--
Resolve the merge keys of a mapping from a place on, with the entries merged so far; the fuel is the number
of merge keys that may be left.
-/
def mergeFrom (fuel : Nat) (id : NodeId) (place : Nat) (merged : List (NodeId × NodeId)) (g : Graph) :
    Except Failure Graph :=
  let entries := g.entries id
  let ahead := entries.drop place
  match fuel, g.firstMerge ahead with
  | fuel + 1, some (distance, source) => do
      let g := g.nameDefaults ((ahead.take distance).map (·.1))
      let here := place + distance
      let g := g.setContent id (.mapping (entries.take here ++ entries.drop (here + 1)))
      match (g.node source).content with
      | .mapping _ =>
          let g ← mergeFrom fuel source 0 [] g
          mergeFrom fuel id here (merged ++ g.entries source) g
      | .sequence items =>
          let (g, lent) ← items.foldlM (fun (g, lent) item =>
            match (g.node item).content with
            | .mapping _ => do
                let g ← mergeFrom fuel item 0 [] g
                return (g, g.entries item ++ lent)
            | _ => badMerge) (g, [])
          mergeFrom fuel id here (merged ++ lent) g
      | .scalar _ => badMerge
  | _, _ =>
      let g := g.nameDefaults (ahead.map (·.1))
      .ok (if merged.isEmpty then g else g.setContent id (.mapping (merged ++ g.entries id)))

/-- Resolve the merge keys of a mapping, where there are no more than `count` in all. -/
def merge (g : Graph) (count : Nat) (id : NodeId) : Except Failure Graph := mergeFrom (count + 1) id 0 [] g

end QueryHooks.Yaml.Graph
