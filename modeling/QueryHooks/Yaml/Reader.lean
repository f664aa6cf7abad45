import QueryHooks.Yaml.Node.Making
import QueryHooks.Yaml.Node.Reading

/-!
From made nodes to the value of the root. A node that is part of several collections has its value in each.
A collection inside itself becomes a reference to the one around it.
-/

namespace QueryHooks.Yaml.Making

/-- The value of a node, and how many of the lists and mappings around it the value refers to. -/
structure Unfolded where
  value : Value
  reach : Nat

/-- Values of nodes that refer to nothing around them. -/
abbrev Known := Array (Option Value)

/-- Put a value among the known ones, if it refers to nothing around it. -/
def remember (known : Known) (id : NodeId) (u : Unfolded) : Known :=
  if u.reach == 0 then known.setIfInBounds id (some u.value) else known

/-- What a node is that lies in itself, seen from the place where it does. -/
def loopOf (made : Made) (up : Nat) : Unfolded :=
  match made with
  | .map _ => ⟨.again .map up, up + 1⟩
  | _ => ⟨.again .list up, up + 1⟩

def placeOf (id : NodeId) : List NodeId → Option Nat
  | [] => none
  | other :: around => if other == id then some 0 else (placeOf id around).map (· + 1)

/-- The value of a node among the lists and mappings around it, from the innermost on. -/
def unfold (m : Making) (fuel : Nat) (around : List NodeId) (known : Known) (id : NodeId) : Unfolded × Known :=
  match fuel, known.getD id none with
  | _, some v => (⟨v, 0⟩, known)
  | 0, none => (⟨.null, 0⟩, known)
  | fuel + 1, none =>
      let made := (m.made.getD id none).getD (.plain .null)
      match placeOf id around with
      | some up => (loopOf made up, known)
      | none =>
          let inner (state : Nat × Known) (part : NodeId) : Value × Nat × Known :=
            let (u, known) := unfold m fuel (id :: around) state.2 part
            (u.value, Nat.max state.1 u.reach, known)
          let finish (v : Value) (reach : Nat) (known : Known) : Unfolded × Known :=
            let u : Unfolded := ⟨v, reach - 1⟩
            (u, remember known id u)
          match made with
          | .plain v => (⟨v, 0⟩, known)
          | .set members => (⟨.set (members.map (·.value)), 0⟩, known)
          | .list items =>
              let (parts, reach, known) := items.foldl (fun (parts, state) part =>
                let (v, state) := inner state part
                (v :: parts, state)) ([], 0, known)
              finish (.list parts.reverse) reach known
          | .pairs items =>
              let (parts, reach, known) := items.foldl (fun (parts, state) (first, second) =>
                let (a, state) := inner state first
                let (b, state) := inner state second
                (.pair a b :: parts, state)) ([], 0, known)
              finish (.list parts.reverse) reach known
          | .map entries =>
              let (parts, reach, known) := entries.foldl (fun (parts, state) (key, part) =>
                let (v, state) := inner state part
                ((key.value, v) :: parts, state)) ([], 0, known)
              finish (.map parts.reverse) reach known

def value (m : Making) (id : NodeId) : Value :=
  (m.unfold (m.graph.nodes.size + 1) [] (Array.replicate m.graph.nodes.size none) id).1.value

end QueryHooks.Yaml.Making

/-! Reading YAML. -/

namespace QueryHooks.Yaml

/-- The value of a text; an empty text is null. -/
def read (chars : List Char) : Except Failure Value := do
  match ← Tree.ofText? chars with
  | none => return .null
  | some tree => return (← Making.ofTree tree).value tree.root

end QueryHooks.Yaml
