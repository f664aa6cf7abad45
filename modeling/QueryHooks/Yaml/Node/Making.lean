import QueryHooks.Yaml.Node
import QueryHooks.Yaml.Scalar.Meaning

/-!
What the nodes of a document denote. Each node is made once, however many collections it is part of.
Collections are made empty and filled later, in the order in which they are met, so of several failures the
one nearest to the root counts, and of those equally near the first.
-/

namespace QueryHooks.Yaml

/-- A key: its value, the node that it comes from, and whether it is written as the usual word for no number. -/
structure Key where
  value : Value
  node : NodeId
  isUsualNan : Bool

/-- Whether a value is no number among the floating-point numbers. -/
def isNan : Value → Bool
  | .float .nan => true
  | _ => false

namespace Key

/-- What is no number equals nothing but itself: the same node, or the value that the usual word stands for. -/
def same (a b : Key) : Bool :=
  if isNan a.value && isNan b.value then a.node == b.node || (a.isUsualNan && b.isUsualNan)
  else Value.sameKey a.value b.value

/-- Store an entry. A key that is there keeps its place and takes the new value. -/
def put {α : Type} (key : Key) (a : α) : List (Key × α) → List (Key × α)
  | [] => [(key, a)]
  | (k, old) :: rest => if k.same key then (k, a) :: rest else (k, old) :: put key a rest

end Key

/-- What a node denotes: a value of its own, or a collection of other nodes. -/
inductive Made
  | plain (v : Value)
  | list (items : List NodeId)
  | pairs (items : List (NodeId × NodeId))
  | map (entries : List (Key × NodeId))
  | set (members : List Key)
deriving Inhabited

/-- Nodes on the way to what they denote, and the collections that have to be filled next, last first. -/
structure Making where
  graph : Graph
  mergeCount : Nat
  made : Array (Option Made)
  later : List NodeId

namespace Making

def start (g : Graph) : Making := ⟨g, g.mergeCount, Array.replicate g.nodes.size none, []⟩

def store (m : Making) (id : NodeId) (made : Made) : Making :=
  match m with
  | ⟨graph, mergeCount, all, later⟩ => ⟨graph, mergeCount, all.setIfInBounds id (some made), later⟩

/-- What a collection of a kind is before it is filled. -/
def emptyOf : Tag → Made
  | .mapping => .map []
  | .set => .set []
  | .orderedMap => .pairs []
  | .pairs => .pairs []
  | _ => .list []

/-- The text of a scalar. A mapping lends that of its default value, which may lead on without end. -/
def textOf (fuel : Nat) (g : Graph) (id : NodeId) : Except Failure String :=
  match fuel with
  | 0 => .error .unrepresentable
  | fuel + 1 =>
      match (g.node id).content with
      | .scalar text => .ok text
      | .sequence _ => .error (.malformed (.wrongKind "scalar"))
      | .mapping entries =>
          match entries.find? fun e => (g.node e.1).tag == .defaultValue with
          | some (_, v) => textOf fuel g v
          | none => .error (.malformed (.wrongKind "scalar"))

private def isScalar : Content → Bool
  | .scalar _ => true
  | _ => false

def plainValue (g : Graph) (id : NodeId) : Except Failure Value := do
  let n := g.node id
  if !n.tag.isKnown then scalarValue n.tag []
  else
    let text ← textOf (g.nodes.size + 1) g id
    if n.tag == .timestamp && !isScalar n.content then throw .unrepresentable
    scalarValue n.tag text.toList

/-- Make what a node denotes, unless it has been made. -/
def make (m : Making) (id : NodeId) : Except Failure Making :=
  if (m.made.getD id none).isSome then .ok m
  else
    let tag := (m.graph.node id).tag
    if tag.isDeferred then
      match m with
      | ⟨graph, mergeCount, made, later⟩ =>
          .ok ⟨graph, mergeCount, made.setIfInBounds id (some (emptyOf tag)), id :: later⟩
    else do
      let v ← plainValue m.graph id
      return m.store id (.plain v)

/-- The word for no number, as numbers are read: without signs and underscores, in any case. -/
def isUsualNanText (text : String) : Bool :=
  let chars := (text.toList.filter (· != '_')).map Char.toLower
  (Text.Integer.splitSign chars).2 == ".nan".toList

/-- The key that a node has been made into. A collection is no key. -/
def keyOf (m : Making) (id : NodeId) : Except Failure Key :=
  match m.made.getD id none with
  | some (.plain v) =>
      let isUsual (text : Except Failure String) : Bool :=
        match text with
        | .ok text => isUsualNanText text
        | .error _ => false
      .ok ⟨v, id, isNan v && isUsual (textOf (m.graph.nodes.size + 1) m.graph id)⟩
  | _ => .error (.malformed .unhashableKey)

/-- Make the keys and values of entries, one after the other, and store them after those that are there. -/
def entriesFrom (stored : List (Key × NodeId)) (m : Making) :
    List (NodeId × NodeId) → Except Failure (List (Key × NodeId) × Making)
  | [] => .ok (stored, m)
  | (k, v) :: rest => do
      let m ← m.make k
      let key ← m.keyOf k
      let m ← m.make v
      entriesFrom (Key.put key v stored) m rest

/-- The entries of a mapping, those that it merges among them. -/
def entriesOf (m : Making) (id : NodeId) : Except Failure (List (Key × NodeId) × Making) :=
  match m with
  | ⟨graph, mergeCount, made, later⟩ =>
      match (graph.node id).content with
      | .mapping _ => do
          let graph ← graph.merge mergeCount id
          let entries := graph.entries id
          entriesFrom [] ⟨graph, mergeCount, made, later⟩ entries
      | _ => .error (.malformed (.wrongKind "mapping"))

def itemsOf (m : Making) (id : NodeId) : Except Failure (List NodeId) :=
  match (m.graph.node id).content with
  | .sequence items => .ok items
  | _ => .error (.malformed (.wrongKind "sequence"))

/-- The one entry of a mapping that stands for a pair. -/
def pairOf (m : Making) (id : NodeId) : Except Failure (NodeId × NodeId) :=
  match (m.graph.node id).content with
  | .mapping [entry] => .ok entry
  | _ => .error (.malformed .badPair)

/-- Make the pairs that mappings of one entry stand for. -/
def pairsFrom (m : Making) : List NodeId → Except Failure (List (NodeId × NodeId) × Making)
  | [] => .ok ([], m)
  | id :: rest => do
      let (k, v) ← m.pairOf id
      let m ← (← m.make k).make v
      let (others, m) ← pairsFrom m rest
      return ((k, v) :: others, m)

def fill (m : Making) (id : NodeId) : Except Failure Making :=
  match (m.graph.node id).tag with
  | .mapping => do
      let (entries, m) ← m.entriesOf id
      return m.store id (.map entries)
  | .set => do
      let (entries, m) ← m.entriesOf id
      return m.store id (.set (entries.map (·.1)))
  | .orderedMap | .pairs => do
      let (items, m) ← m.pairsFrom (← m.itemsOf id)
      return m.store id (.pairs items)
  | _ => do
      let items ← m.itemsOf id
      let m ← items.foldlM make m
      return m.store id (.list items)

/-- Fill the collections that are waiting, then those met on the way, and so on. Each node waits once. -/
def fillAll (fuel : Nat) (m : Making) : Except Failure Making :=
  match fuel, m.later with
  | fuel + 1, id :: others => do
      let m ← ((id :: others).reverse).foldlM fill { m with later := [] }
      fillAll fuel m
  | _, _ => .ok m

/-- Make all nodes that a root leads to. -/
def ofTree (t : Tree) : Except Failure Making := do
  let m ← (start t.graph).make t.root
  fillAll (t.graph.nodes.size + 1) m

end Making

end QueryHooks.Yaml
