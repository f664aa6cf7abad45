import QueryHooks.Yaml.Node
import QueryHooks.Yaml.Token.Stream

/-!
From tokens to the nodes of the one document that a text holds. No more tokens are looked at than are
needed to go on, so of two failures the one that is met first counts.
-/

namespace QueryHooks.Yaml

/-- The tokens that are left, why they end where no end of the text is among them, the names in force, and the nodes so far. -/
structure Reading where
  tokens : List Token
  ended : Failure
  handles : List (String × String)
  anchors : List (String × NodeId)
  graph : Graph

namespace Reading

def drop (r : Reading) (n : Nat) : Reading := { r with tokens := r.tokens.drop n }

def peek (r : Reading) : Except Failure Token :=
  match r.tokens with
  | [] => .error r.ended
  | t :: _ => .ok t

/-- Add a node, and let an anchor name it. -/
def add (r : Reading) (anchor : Option String) (n : Node) : NodeId × Reading :=
  match r with
  | ⟨tokens, ended, handles, anchors, graph⟩ =>
      let (id, graph) := graph.add n
      let named := match anchor with
        | none => anchors
        | some name => (name, id) :: anchors
      (id, ⟨tokens, ended, handles, named, graph⟩)

/-- Complete a collection that was added before its parts. -/
def complete (r : Reading) (id : NodeId) (content : Content) : Reading :=
  match r with
  | ⟨tokens, ended, handles, anchors, graph⟩ => ⟨tokens, ended, handles, anchors, graph.setContent id content⟩

end Reading

structure Properties where
  anchor : Option String
  tag : Option String

/-- The complete name of a tag. -/
def Reading.tagName (r : Reading) (t : WrittenTag) : Except Failure String :=
  match t.handle with
  | none => .ok t.suffix
  | some handle =>
      match r.handles.lookup handle with
      | some start => .ok (start ++ t.suffix)
      | none => malformed .undefinedHandle

/-- An anchor and a tag, in either order. -/
def Reading.properties (r : Reading) : Except Failure (Properties × Reading) := do
  match ← r.peek with
  | .anchor name =>
      let r := r.drop 1
      match ← r.peek with
      | .tag t => return (⟨some name, some (← r.tagName t)⟩, r.drop 1)
      | _ => return (⟨some name, none⟩, r)
  | .tag t =>
      let r := r.drop 1
      match ← r.peek with
      | .anchor name => return (⟨some name, some (← r.tagName t)⟩, r.drop 1)
      | _ => return (⟨none, some (← r.tagName t)⟩, r)
  | _ => return (⟨none, none⟩, r)

/-- The kind of a collection: the tag `!` leaves it open. -/
def Properties.collectionTag (p : Properties) (usual : Tag) : Tag :=
  match p.tag with
  | none => usual
  | some "!" => usual
  | some name => .ofName name

/-- The kind of a scalar: the text decides where there is neither a tag nor a quote, and where the tag is `!`. -/
def Properties.scalarTag (p : Properties) (text : String) (plain : Bool) : Tag :=
  match p.tag with
  | none => if plain then .ofScalar text else .text
  | some "!" => .ofScalar text
  | some name => .ofName name

private def isOneOf (t : Token) : List Token → Bool
  | [] => false
  | other :: rest =>
      (match t, other with
        | .blockEntry, .blockEntry => true
        | .blockEnd, .blockEnd => true
        | .key, .key => true
        | .value, .value => true
        | .flowEntry, .flowEntry => true
        | .flowSequenceEnd, .flowSequenceEnd => true
        | .flowMappingEnd, .flowMappingEnd => true
        | _, _ => false) || isOneOf t rest

inductive Opening
  | scalar (text : String) (plain : Bool)
  | nothing
  | indentless
  | flowSequence
  | flowMapping
  | blockSequence
  | blockMapping

/-- What a token starts. `block` admits block collections, `indentless` sequence entries without an indent. -/
def Token.opening? (t : Token) (block indentless : Bool) (p : Properties) : Option Opening :=
  match t, block, indentless with
  | .blockEntry, _, true => some .indentless
  | .scalar text plain, _, _ => some (.scalar text plain)
  | .flowSequenceStart, _, _ => some .flowSequence
  | .flowMappingStart, _, _ => some .flowMapping
  | .blockSequenceStart, true, _ => some .blockSequence
  | .blockMappingStart, true, _ => some .blockMapping
  | _, _, _ => if p.anchor.isNone && p.tag.isNone then none else some .nothing

namespace Reading

/-- How many collections may lie inside each other. -/
def maxDepth : Nat := 485

def openSequence (r : Reading) (p : Properties) : NodeId × Reading :=
  r.add p.anchor ⟨p.collectionTag .sequence, .sequence []⟩

def openMapping (r : Reading) (p : Properties) : NodeId × Reading :=
  r.add p.anchor ⟨p.collectionTag .mapping, .mapping []⟩

mutual

def node (fuel depth : Nat) (block indentless : Bool) (r : Reading) : Except Failure (NodeId × Reading) :=
  match fuel with
  | 0 => .error r.ended
  | fuel + 1 => do
      match ← r.peek with
      | .alias name =>
          match r.anchors.lookup name with
          | none => malformed (.undefinedAlias name)
          | some known => return (known, r.drop 1)
      | _ =>
          let (p, r) ← r.properties
          match (← r.peek).opening? block indentless p with
          | none => malformed .missingNode
          | some opening =>
              if p.anchor.any fun name => (r.anchors.lookup name).isSome then
                malformed (.duplicateAnchor (p.anchor.getD ""))
              else
                match opening with
                | .scalar text plain => return (r.drop 1).add p.anchor ⟨p.scalarTag text plain, .scalar text⟩
                | .nothing => return r.add p.anchor ⟨p.scalarTag "" true, .scalar ""⟩
                | opening => collection fuel depth opening p r

/-- A collection in `depth` others, its opening token next. -/
def collection (fuel depth : Nat) (opening : Opening) (p : Properties) (r : Reading) :
    Except Failure (NodeId × Reading) :=
  match fuel with
  | 0 => .error r.ended
  | fuel + 1 => do
      if maxDepth ≤ depth then throw .unrepresentable
      let inner := depth + 1
      match opening with
      | .indentless =>
          let (id, r) := r.openSequence p
          let (items, r) ← indentlessItems fuel inner r
          return (id, r.complete id (.sequence items))
      | .flowSequence =>
          let (id, r) := (r.drop 1).openSequence p
          let (items, r) ← flowItems fuel inner true r
          return (id, r.complete id (.sequence items))
      | .blockSequence =>
          let (id, r) := (r.drop 1).openSequence p
          let (items, r) ← blockItems fuel inner r
          return (id, r.complete id (.sequence items))
      | .flowMapping =>
          let (id, r) := (r.drop 1).openMapping p
          let (entries, r) ← flowEntries fuel inner true r
          return (id, r.complete id (.mapping entries))
      | _ =>
          let (id, r) := (r.drop 1).openMapping p
          let (entries, r) ← blockEntries fuel inner r
          return (id, r.complete id (.mapping entries))

/-- A node, or the empty one before a token that cannot start it. -/
def nodeUnless (fuel depth : Nat) (stops : List Token) (block indentless : Bool) (r : Reading) :
    Except Failure (NodeId × Reading) :=
  match fuel with
  | 0 => .error r.ended
  | fuel + 1 => do
      if isOneOf (← r.peek) stops then return r.add none .empty else node fuel depth block indentless r

/-- The value after a key, or the empty node where no colon follows. -/
def valueAfterKey (fuel depth : Nat) (stops : List Token) (block : Bool) (r : Reading) :
    Except Failure (NodeId × Reading) :=
  match fuel with
  | 0 => .error r.ended
  | fuel + 1 => do
      match ← r.peek with
      | .value => nodeUnless fuel depth stops block block (r.drop 1)
      | _ => return r.add none .empty

def blockItems (fuel depth : Nat) (r : Reading) : Except Failure (List NodeId × Reading) :=
  match fuel with
  | 0 => .error r.ended
  | fuel + 1 => do
      match ← r.peek with
      | .blockEntry =>
          let (item, r) ← nodeUnless fuel depth [.blockEntry, .blockEnd] true false (r.drop 1)
          let (more, r) ← blockItems fuel depth r
          return (item :: more, r)
      | .blockEnd => return ([], r.drop 1)
      | _ => malformed .unclosedBlock

def indentlessItems (fuel depth : Nat) (r : Reading) : Except Failure (List NodeId × Reading) :=
  match fuel with
  | 0 => .error r.ended
  | fuel + 1 => do
      match ← r.peek with
      | .blockEntry =>
          let (item, r) ← nodeUnless fuel depth [.blockEntry, .key, .value, .blockEnd] true false (r.drop 1)
          let (more, r) ← indentlessItems fuel depth r
          return (item :: more, r)
      | _ => return ([], r)

def blockEntries (fuel depth : Nat) (r : Reading) : Except Failure (List (NodeId × NodeId) × Reading) :=
  match fuel with
  | 0 => .error r.ended
  | fuel + 1 => do
      match ← r.peek with
      | .key =>
          let stops := [.key, .value, .blockEnd]
          let (key, r) ← nodeUnless fuel depth stops true true (r.drop 1)
          let (value, r) ← valueAfterKey fuel depth stops true r
          let (more, r) ← blockEntries fuel depth r
          return ((key, value) :: more, r)
      | .blockEnd => return ([], r.drop 1)
      | _ => malformed .unclosedBlock

/-- The items of a flow sequence; a key among them makes a mapping of one entry. -/
def flowItems (fuel depth : Nat) (first : Bool) (r : Reading) : Except Failure (List NodeId × Reading) :=
  match fuel with
  | 0 => .error r.ended
  | fuel + 1 => do
      match ← r.peek, first with
      | .flowSequenceEnd, _ => return ([], r.drop 1)
      | .flowEntry, false => flowItem fuel depth (r.drop 1)
      | _, false => malformed .unclosedFlow
      | _, true => flowItem fuel depth r

def flowItem (fuel depth : Nat) (r : Reading) : Except Failure (List NodeId × Reading) :=
  match fuel with
  | 0 => .error r.ended
  | fuel + 1 => do
      match ← r.peek with
      | .flowSequenceEnd => return ([], r.drop 1)
      | .key =>
          let (id, r) := (r.drop 1).openMapping ⟨none, none⟩
          let (key, r) ← nodeUnless fuel (depth + 1) [.value, .flowEntry, .flowSequenceEnd] false false r
          let (value, r) ← valueAfterKey fuel (depth + 1) [.flowEntry, .flowSequenceEnd] false r
          let (more, r) ← flowItems fuel depth false (r.complete id (.mapping [(key, value)]))
          return (id :: more, r)
      | _ =>
          let (item, r) ← node fuel depth false false r
          let (more, r) ← flowItems fuel depth false r
          return (item :: more, r)

def flowEntries (fuel depth : Nat) (first : Bool) (r : Reading) :
    Except Failure (List (NodeId × NodeId) × Reading) :=
  match fuel with
  | 0 => .error r.ended
  | fuel + 1 => do
      match ← r.peek, first with
      | .flowMappingEnd, _ => return ([], r.drop 1)
      | .flowEntry, false => flowEntry fuel depth (r.drop 1)
      | _, false => malformed .unclosedFlow
      | _, true => flowEntry fuel depth r

def flowEntry (fuel depth : Nat) (r : Reading) : Except Failure (List (NodeId × NodeId) × Reading) :=
  match fuel with
  | 0 => .error r.ended
  | fuel + 1 => do
      match ← r.peek with
      | .flowMappingEnd => return ([], r.drop 1)
      | .key =>
          let (key, r) ← nodeUnless fuel depth [.value, .flowEntry, .flowMappingEnd] false false (r.drop 1)
          let (value, r) ← valueAfterKey fuel depth [.flowEntry, .flowMappingEnd] false r
          let (more, r) ← flowEntries fuel depth false r
          return ((key, value) :: more, r)
      | _ =>
          let (key, r) ← node fuel depth false false r
          let (value, r) := r.add none .empty
          let (more, r) ← flowEntries fuel depth false r
          return ((key, value) :: more, r)

end

/-- The root node. No document has more steps than this: each token is looked at by a bounded number of readers. -/
def rootNode (r : Reading) : Except Failure (NodeId × Reading) := node (10 * r.tokens.length + 10) 0 true false r

/-- The directives before a document. -/
def directives (version : Bool) (declared : List (String × String)) :
    List Token → Except Failure (List (String × String) × List Token)
  | .directive (.version major) :: rest =>
      if version then malformed .duplicateVersion
      else if major != 1 then malformed .incompatibleVersion
      else directives true declared rest
  | .directive (.handle name start) :: rest =>
      if (declared.lookup name).isSome then malformed .duplicateHandle
      else directives version ((name, start) :: declared) rest
  | .directive .other :: rest => directives version declared rest
  | rest => .ok (declared, rest)

def usualHandles : List (String × String) := [("!", "!"), ("!!", Tag.standardStart)]

def documentStart (r : Reading) : Except Failure Reading := do
  let (declared, rest) ← directives false [] r.tokens
  let r := { r with tokens := rest, handles := declared ++ usualHandles }
  match ← r.peek with
  | .documentStart => return r.drop 1
  | _ => malformed .missingDocumentStart

def document (r : Reading) : Except Failure (NodeId × Reading) := do
  match ← r.peek with
  | .directive _ | .documentStart =>
      let r ← r.documentStart
      match ← r.peek with
      | .directive _ | .documentStart | .documentEnd | .streamEnd => return r.add none .empty
      | _ => r.rootNode
  | _ => r.rootNode

/-- The tokens after the end marks of a document. -/
def afterEnd : List Token → List Token
  | .documentEnd :: rest => afterEnd rest
  | rest => rest

/-- Nothing may follow the document but its end marks. -/
def finish (r : Reading) : Except Failure Unit := do
  let r := { r with tokens := afterEnd r.tokens }
  match ← r.peek with
  | .streamEnd => return
  | _ =>
      let _ ← r.documentStart
      malformed .severalDocuments

end Reading

/-- The document that a text holds, if it holds one. -/
def Tree.ofText? (chars : List Char) : Except Failure (Option Tree) := do
  let (found, failure) := tokens chars
  let r : Reading := ⟨found, failure.getD (.malformed .missingNode), Reading.usualHandles, [], .empty⟩
  match ← r.peek with
  | .streamEnd => return none
  | _ =>
      let (root, r) ← r.document
      r.finish
      return some ⟨r.graph, root⟩

end QueryHooks.Yaml
