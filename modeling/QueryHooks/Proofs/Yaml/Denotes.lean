import QueryHooks.Proofs.Yaml.Nesting
import QueryHooks.Yaml.Reader

/-!
Documents whose texts denote what their tags promise. Merging moves entries and makes texts of the keys of
default values; it breaks no such promise, so what such a document denotes can be made, or it is malformed.
-/

namespace QueryHooks.Yaml

/-- Whether nodes of a kind are made from a text. A key of a default value may become one of them. -/
def Tag.isOfText : Tag → Bool
  | .null | .bool | .int | .float | .binary | .timestamp | .text | .defaultValue => true
  | _ => false

/-- Whether a text denotes what a tag promises: a truth value, a number or a moment. Other tags promise less. -/
def Tag.IsMetBy : Tag → List Char → Prop
  | .bool, chars => (truth chars).isSome
  | .int, chars => (Number.integer? chars).isSome
  | .float, chars => (Number.float? chars).isSome
  | .timestamp, chars => (moment chars).isSome
  | _, _ => True

theorem ends_orUnrepresentable {found : Option Value} (isSome : found.isSome = true) :
    Ends (orUnrepresentable found) (fun _ => True) IsMalformed := by
  obtain ⟨v, rfl⟩ := Option.isSome_iff_exists.1 isSome
  exact .ok trivial

theorem ends_binary (chars : List Char) : Ends (binary chars) (fun _ => True) IsMalformed := by
  unfold binary
  split
  · exact .error ⟨_, rfl⟩
  · split
    · exact .ok trivial
    · exact .error ⟨_, rfl⟩

theorem ends_scalarValue {tag : Tag} {chars : List Char} (met : tag.IsMetBy chars) :
    Ends (scalarValue tag chars) (fun _ => True) IsMalformed := by
  cases tag with
  | null => exact .ok trivial
  | bool => exact ends_orUnrepresentable met
  | int => exact ends_orUnrepresentable (Option.isSome_map.trans met)
  | float => exact ends_orUnrepresentable (Option.isSome_map.trans met)
  | binary => exact ends_binary chars
  | timestamp => exact ends_orUnrepresentable met
  | text => exact .ok trivial
  | _ => exact .error ⟨_, rfl⟩

/-- Whether the text of a node denotes what its tag promises. No text is expected of a mapping. -/
def Node.Denotes (n : Node) : Prop :=
  match n.content with
  | .scalar text => n.tag.IsMetBy text.toList
  | .sequence _ => True
  | .mapping _ => n.tag.isOfText = false

namespace Graph

variable {g before after : Graph} {id : NodeId}

def Denotes (g : Graph) : Prop := ∀ n ∈ g.nodes, n.Denotes

def IsMapping (g : Graph) (id : NodeId) : Prop := ∃ entries, (g.node id).content = .mapping entries

/-- The texts of a graph denote, and the mappings of the graph before are mappings in it. -/
structure Follows (g before : Graph) : Prop where
  denotes : g.Denotes
  mappings : ∀ id, before.IsMapping id → g.IsMapping id

theorem Follows.refl (denotes : g.Denotes) : g.Follows g := ⟨denotes, fun _ isMapping => isMapping⟩

theorem Follows.trans (later : after.Follows g) (earlier : g.Follows before) : after.Follows before where
  denotes := later.denotes
  mappings id isMapping := later.mappings id (earlier.mappings id isMapping)

theorem Denotes.node (denotes : g.Denotes) (id : NodeId) : (g.node id).Denotes := by
  unfold Graph.node
  rw [Array.getD_eq_getD_getElem?]
  cases here : g.nodes[id]? with
  | none => trivial
  | some n => exact denotes n (Array.mem_of_getElem? here)

theorem node_set (g : Graph) (id other : NodeId) (n : Node) :
    (g.set id n).node other = g.node other ∨ other = id ∧ (g.set id n).node other = n := by
  unfold set node
  rw [Array.getD_eq_getD_getElem?, Array.getD_eq_getD_getElem?, Array.getElem?_setIfInBounds]
  by_cases same : id = other
  · subst same
    by_cases inside : id < g.nodes.size
    · exact .inr ⟨rfl, by rw [if_pos rfl, if_pos inside, Option.getD_some]⟩
    · have outside : g.nodes[id]? = none := Array.getElem?_eq_none (Nat.le_of_not_lt inside)
      exact .inl (by rw [if_pos rfl, if_neg inside, outside])
  · exact .inl (by rw [if_neg same])

theorem denotes_set {n : Node} (denotes : g.Denotes) (own : n.Denotes) : (g.set id n).Denotes := by
  intro other inside
  rcases Array.mem_or_eq_of_mem_setIfInBounds inside with old | new
  · exact denotes other old
  · exact new ▸ own

theorem follows_setContent (denotes : g.Denotes) (isMapping : g.IsMapping id) (entries : List (NodeId × NodeId)) :
    (g.setContent id (.mapping entries)).Follows g := by
  obtain ⟨old, content⟩ := isMapping
  have own := denotes.node id
  rw [Node.Denotes, content] at own
  constructor
  · exact denotes_set denotes own
  · intro other wasMapping
    rcases node_set g id other { g.node id with content := .mapping entries } with same | ⟨-, new⟩
    · rw [IsMapping, setContent, same]
      exact wasMapping
    · rw [IsMapping, setContent, new]
      exact ⟨entries, rfl⟩

theorem follows_setTag (denotes : g.Denotes) (isDefault : (g.node id).tag = .defaultValue) :
    (g.setTag id .text).Follows g := by
  have own := denotes.node id
  constructor
  · apply denotes_set denotes
    rw [Node.Denotes] at own ⊢
    cases content : (g.node id).content with
    | scalar text => trivial
    | sequence items => trivial
    | mapping entries =>
        rw [content, isDefault] at own
        cases own
  · intro other wasMapping
    rcases node_set g id other { g.node id with tag := .text } with same | ⟨here, new⟩
    · rw [IsMapping, setTag, same]
      exact wasMapping
    · rw [IsMapping, setTag, new]
      exact here ▸ wasMapping

theorem follows_nameDefaults (denotes : g.Denotes) (keys : List NodeId) : (g.nameDefaults keys).Follows g := by
  unfold nameDefaults
  induction keys generalizing g with
  | nil => exact .refl denotes
  | cons key rest ih =>
      rw [List.foldl_cons]
      by_cases isDefault : (g.node key).tag = .defaultValue
      · have named := follows_setTag denotes isDefault
        rw [if_pos (beq_iff_eq.2 isDefault)]
        exact (ih named.denotes).trans named
      · rw [if_neg (by simpa using isDefault)]
        exact ih denotes

/-- Entries that nothing is left to merge into take those merged so far in front. -/
theorem follows_finish (denotes : g.Denotes) (isMapping : g.IsMapping id) (keys : List NodeId)
    (merged : List (NodeId × NodeId)) :
    (if merged.isEmpty then g.nameDefaults keys
      else (g.nameDefaults keys).setContent id (.mapping (merged ++ (g.nameDefaults keys).entries id))).Follows g := by
  have named := follows_nameDefaults denotes keys
  split
  · exact named
  · exact (follows_setContent named.denotes (named.mappings id isMapping) _).trans named

theorem ends_mergeFrom {fuel : Nat} {place : Nat} {merged : List (NodeId × NodeId)} (denotes : g.Denotes)
    (isMapping : g.IsMapping id) : Ends (mergeFrom fuel id place merged g) (·.Follows g) IsMalformed := by
  induction fuel generalizing g id place merged with
  | zero =>
      unfold mergeFrom
      exact .ok (follows_finish denotes isMapping _ _)
  | succ fuel ih =>
      unfold mergeFrom
      dsimp only
      cases first : g.firstMerge ((g.entries id).drop place) with
      | none => exact .ok (follows_finish denotes isMapping _ _)
      | some found =>
          obtain ⟨distance, source⟩ := found
          dsimp only
          have named := follows_nameDefaults denotes ((((g.entries id).drop place).take distance).map (·.1))
          generalize g.nameDefaults ((((g.entries id).drop place).take distance).map (·.1)) = g₁ at named ⊢
          have shortened := (follows_setContent named.denotes (named.mappings id isMapping)
            ((g.entries id).take (place + distance) ++ (g.entries id).drop (place + distance + 1))).trans named
          generalize g₁.setContent id _ = g₂ at shortened ⊢
          -- What is merged may be the mapping itself, which is shorter by the merge key now.
          cases content : (g₂.node source).content with
          | scalar text => exact .error ⟨_, rfl⟩
          | mapping entries =>
              apply (ih shortened.denotes ⟨entries, content⟩).bind
              intro g₃ lent
              have followed := lent.trans shortened
              exact (ih followed.denotes (followed.mappings id isMapping)).mono fun _ rest => rest.trans followed
          | sequence items =>
              let Followed (state : Graph × List (NodeId × NodeId)) : Prop := state.1.Follows g
              dsimp only
              refine Ends.bind (?_ : Ends _ Followed IsMalformed) ?_
              · have starts : Followed (g₂, []) := shortened
                apply Ends.foldlM starts
                rintro ⟨g₃, lent⟩ item - followed
                dsimp only
                split
                · next entries inside =>
                    apply (ih followed.denotes ⟨entries, inside⟩).bind
                    intro g₄ merged
                    exact .ok (merged.trans followed)
                · exact .error ⟨_, rfl⟩
              · rintro ⟨g₃, lent⟩ followed
                exact (ih followed.denotes (followed.mappings id isMapping)).mono fun _ rest => rest.trans followed

end Graph

namespace Making

variable {m : Making} {id : NodeId}

def Denotes (m : Making) : Prop := m.graph.Denotes

theorem ends_textOf {fuel : Nat} {g : Graph} (noMapping : ¬ g.IsMapping id) :
    Ends (textOf (fuel + 1) g id) (fun text => (g.node id).content = .scalar text) IsMalformed := by
  rw [textOf]
  cases content : (g.node id).content with
  | scalar text => exact .ok rfl
  | sequence items => exact .error ⟨_, rfl⟩
  | mapping entries => exact absurd ⟨entries, content⟩ noMapping

theorem isOfText_of_made {tag : Tag} (isKnown : tag.isKnown = true) (isDeferred : tag.isDeferred = false) :
    tag.isOfText = true := by
  cases tag <;> simp_all [Tag.isKnown, Tag.isDeferred, Tag.isOfText]

theorem isMetBy_of_unknown {tag : Tag} (isKnown : tag.isKnown = false) (chars : List Char) : tag.IsMetBy chars := by
  cases tag with
  | merge => trivial
  | defaultValue => trivial
  | other name => trivial
  | _ => cases isKnown

theorem ends_plainValue {g : Graph} (denotes : g.Denotes) (isDeferred : (g.node id).tag.isDeferred = false) :
    Ends (plainValue g id) (fun _ => True) IsMalformed := by
  have own := denotes.node id
  unfold plainValue
  dsimp only
  by_cases isKnown : (g.node id).tag.isKnown = true
  · rw [if_neg (by simp [isKnown])]
    have noMapping : ¬ g.IsMapping id := by
      rintro ⟨entries, content⟩
      rw [Node.Denotes, content] at own
      exact absurd (isOfText_of_made isKnown isDeferred) (by simp [own])
    apply (ends_textOf noMapping).bind
    intro text content
    rw [Node.Denotes, content] at own
    rw [content, if_neg fun both => by cases (Bool.and_eq_true_iff.1 both).2]
    exact ends_scalarValue own
  · rw [if_pos (by simpa using isKnown)]
    exact ends_scalarValue (isMetBy_of_unknown (by simpa using isKnown) [])

theorem ends_make (denotes : m.Denotes) (id : NodeId) :
    Ends (m.make id) Denotes IsMalformed := by
  unfold make
  split
  · exact .ok denotes
  · dsimp only
    split
    · exact .ok denotes
    · next isDeferred =>
        apply (ends_plainValue denotes (by simpa using isDeferred)).bind
        intro v _
        exact .ok denotes

theorem ends_keyOf (m : Making) (id : NodeId) : Ends (m.keyOf id) (fun _ => True) IsMalformed := by
  unfold keyOf
  split
  · exact .ok trivial
  · exact .error ⟨_, rfl⟩

theorem ends_entriesFrom {entries : List (NodeId × NodeId)} {stored : List (Key × NodeId)}
    (denotes : m.Denotes) :
    Ends (entriesFrom stored m entries) (·.2.Denotes) IsMalformed := by
  induction entries generalizing stored m with
  | nil => exact .ok denotes
  | cons entry rest ih =>
      obtain ⟨k, v⟩ := entry
      rw [entriesFrom]
      apply (ends_make denotes k).bind
      intro m₁ denotes
      apply (ends_keyOf m₁ k).bind
      intro key _
      apply (ends_make denotes v).bind
      intro m₂ denotes
      exact ih denotes

theorem ends_entriesOf (denotes : m.Denotes) (id : NodeId) :
    Ends (m.entriesOf id) (·.2.Denotes) IsMalformed := by
  unfold entriesOf
  dsimp only
  split
  · next entries content =>
      apply (Graph.ends_mergeFrom denotes ⟨entries, content⟩).bind
      intro merged followed
      exact ends_entriesFrom followed.denotes
  · exact .error ⟨_, rfl⟩

theorem ends_itemsOf (m : Making) (id : NodeId) : Ends (m.itemsOf id) (fun _ => True) IsMalformed := by
  unfold itemsOf
  split
  · exact .ok trivial
  · exact .error ⟨_, rfl⟩

theorem ends_pairOf (m : Making) (id : NodeId) : Ends (m.pairOf id) (fun _ => True) IsMalformed := by
  unfold pairOf
  split
  · exact .ok trivial
  · exact .error ⟨_, rfl⟩

theorem ends_pairsFrom {items : List NodeId} (denotes : m.Denotes) :
    Ends (m.pairsFrom items) (·.2.Denotes) IsMalformed := by
  induction items generalizing m with
  | nil => exact .ok denotes
  | cons item rest ih =>
      rw [pairsFrom]
      apply (ends_pairOf m item).bind
      rintro ⟨k, v⟩ _
      apply (ends_make denotes k).bind
      intro m₁ denotes
      apply (ends_make denotes v).bind
      intro m₂ denotes
      apply (ih denotes).bind
      rintro ⟨others, m₃⟩ denotes
      exact .ok denotes

theorem ends_fill (denotes : m.Denotes) (id : NodeId) : Ends (m.fill id) Denotes IsMalformed := by
  have entries := ends_entriesOf denotes id
  have pairs : Ends (do let made ← m.pairsFrom (← m.itemsOf id); return made.2.store id (.pairs made.1))
      Denotes IsMalformed := by
    apply (ends_itemsOf m id).bind
    intro items _
    apply (ends_pairsFrom denotes).bind
    rintro ⟨made, m₁⟩ denotes
    exact .ok denotes
  unfold fill
  split
  · exact entries.bind fun found denotes => .ok denotes
  · exact entries.bind fun found denotes => .ok denotes
  · exact pairs
  · exact pairs
  · apply (ends_itemsOf m id).bind
    intro items _
    apply (Ends.foldlM denotes fun m₁ item _ denotes => ends_make denotes item).bind
    intro m₁ denotes
    exact .ok denotes

theorem ends_fillAll {fuel : Nat} (denotes : m.Denotes) :
    Ends (fillAll fuel m) Denotes IsMalformed := by
  induction fuel generalizing m with
  | zero => exact .ok denotes
  | succ fuel ih =>
      unfold fillAll
      cases m.later with
      | nil => exact .ok denotes
      | cons id others =>
          have starts : Denotes { m with later := [] } := denotes
          apply (Ends.foldlM starts fun m₁ id _ denotes => ends_fill denotes id).bind
          intro m₁ denotes
          exact ih denotes

/-- What a document denotes can be made if its texts denote what their tags promise, or it is malformed. -/
theorem ends_ofTree {t : Tree} (denotes : t.graph.Denotes) : Ends (ofTree t) Denotes IsMalformed := by
  have starts : Denotes (start t.graph) := denotes
  apply (ends_make starts t.root).bind
  intro m denotes
  exact ends_fillAll denotes

end Making

/--
Whether a text is legible: it is within the limits of its tokens, they do not nest too deep, and the texts of its nodes
denote what their tags promise. A malformed text can be.
-/
structure IsLegible (chars : List Char) : Prop where
  within : IsWithin chars
  nests : nestsWithin [] (tokens chars).1 = true
  denotes : ∀ t, Tree.ofText? chars = .ok (some t) → t.graph.Denotes

theorem IsLegible.ends_read {chars : List Char} (legible : IsLegible chars) :
    Ends (read chars) (fun _ => True) IsMalformed := by
  have composed := Tree.ends_ofText legible.within legible.nests
  unfold read
  cases found : Tree.ofText? chars with
  | error failure => exact .error (composed.failed failure found)
  | ok tree =>
      cases tree with
      | none => exact .ok trivial
      | some t => exact (Making.ends_ofTree (legible.denotes t found)).bind fun _ _ => .ok trivial

end QueryHooks.Yaml
