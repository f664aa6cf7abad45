import QueryHooks.Proofs.Yaml.Limits
import QueryHooks.Yaml.Node.Reading

/-!
How deep the collections of a YAML document lie inside each other. Its tokens tell it before it is composed, so that
a document whose tokens nest within the limit is composed, or it is malformed.
-/

namespace QueryHooks.Yaml

/--
How many levels a token begins. In flow style a sequence may hold mappings without brackets, in block style a mapping
may hold sequences without an indent: neither has a token of its own.
-/
def Token.levels : Token → Nat
  | .blockSequenceStart | .flowMappingStart => 1
  | .blockMappingStart | .flowSequenceStart => 2
  | _ => 0

def Token.isEnd : Token → Bool
  | .blockEnd | .flowSequenceEnd | .flowMappingEnd => true
  | _ => false

/-- Whether collections never nest too deep. Those around the tokens are given by their levels, innermost first. -/
def nestsWithin : List Nat → List Token → Bool
  | _, [] => true
  | around, t :: rest =>
      if t.isEnd then nestsWithin around.tail rest
      else if t.levels = 0 then nestsWithin around rest
      else decide ((t.levels :: around).sum ≤ Reading.maxDepth) && nestsWithin (t.levels :: around) rest

namespace Reading

variable {r : Reading} {around : List Nat} {t : Token} {rest : List Token} {id : NodeId} {w fuel depth : Nat}

/-- Whether reading goes on inside of some collections without nesting too deep. -/
structure StandsIn (around : List Nat) (r : Reading) : Prop where
  ended : IsMalformed r.ended
  room : around.sum ≤ maxDepth
  nests : nestsWithin around r.tokens = true

namespace StandsIn

theorem peek (stands : r.StandsIn around) : Ends r.peek (fun t => ∃ rest, r.tokens = t :: rest) IsMalformed := by
  unfold Reading.peek
  split
  · exact .error stands.ended
  · next t rest here => exact .ok ⟨rest, here⟩

/-- Behind a token that neither begins nor ends a collection. -/
theorem pass (stands : r.StandsIn around) (here : r.tokens = t :: rest) (noEnd : t.isEnd = false)
    (noStart : t.levels = 0) : (r.drop 1).StandsIn around where
  ended := stands.ended
  room := stands.room
  nests := by
    have nests := stands.nests
    rw [here, nestsWithin, noEnd, noStart] at nests
    rw [Reading.drop, here]
    exact nests

theorem enter (stands : r.StandsIn around) (here : r.tokens = t :: rest) (noEnd : t.isEnd = false)
    (starts : t.levels ≠ 0) : (r.drop 1).StandsIn (t.levels :: around) := by
  have nests := stands.nests
  rw [here, nestsWithin, noEnd, if_neg (by decide), if_neg starts, Bool.and_eq_true, decide_eq_true_eq] at nests
  refine ⟨stands.ended, nests.1, ?_⟩
  rw [Reading.drop, here]
  exact nests.2

theorem leave (stands : r.StandsIn (w :: around)) (here : r.tokens = t :: rest) (isEnd : t.isEnd = true) :
    (r.drop 1).StandsIn around := by
  have nests := stands.nests
  rw [here, nestsWithin, if_pos isEnd] at nests
  have room := stands.room
  rw [List.sum_cons] at room
  refine ⟨stands.ended, by omega, ?_⟩
  rw [Reading.drop, here]
  exact nests

theorem add (stands : r.StandsIn around) (anchor : Option String) (n : Node) : (r.add anchor n).2.StandsIn around :=
  ⟨stands.ended, stands.room, stands.nests⟩

theorem complete (stands : r.StandsIn around) (id : NodeId) (content : Content) :
    (r.complete id content).StandsIn around :=
  ⟨stands.ended, stands.room, stands.nests⟩

theorem tagName (r : Reading) (t : WrittenTag) : Ends (r.tagName t) (fun _ => True) IsMalformed := by
  unfold Reading.tagName
  split
  · exact .ok trivial
  · split
    · exact .ok trivial
    · exact ends_malformed _

theorem properties (stands : r.StandsIn around) :
    Ends r.properties (·.2.StandsIn around) IsMalformed := by
  unfold Reading.properties
  apply stands.peek.bind
  rintro t ⟨rest, here⟩
  dsimp only
  split
  · have named := stands.pass here rfl rfl
    apply named.peek.bind
    rintro other ⟨more, next⟩
    split
    · exact (tagName _ _).bind fun name _ => .ok (named.pass next rfl rfl)
    · exact .ok named
  · have tagged := stands.pass here rfl rfl
    apply tagged.peek.bind
    rintro other ⟨more, next⟩
    split
    · exact (tagName _ _).bind fun name _ => .ok (tagged.pass next rfl rfl)
    · exact (tagName _ _).bind fun name _ => .ok tagged
  · exact .ok stands

end StandsIn

/-- Whether there is room for what begins in `depth` collections, if it is a collection. -/
def HasRoom (depth : Nat) (around : List Nat) (r : Reading) : Opening → Prop
  | .indentless => depth + 1 ≤ around.sum ∧ r.StandsIn around
  | .flowSequence | .blockMapping => depth + 2 ≤ (2 :: around).sum ∧ (r.drop 1).StandsIn (2 :: around)
  | .blockSequence | .flowMapping => depth + 1 ≤ (1 :: around).sum ∧ (r.drop 1).StandsIn (1 :: around)
  | .scalar _ _ | .nothing => False

theorem HasRoom.lt_maxDepth {opening : Opening} (room : r.HasRoom depth around opening) : depth < maxDepth := by
  cases opening with
  | scalar => cases room
  | nothing => cases room
  | indentless => exact room.1.trans room.2.room
  | flowSequence => exact (Nat.le_succ _).trans (room.1.trans room.2.room)
  | flowMapping => exact room.1.trans room.2.room
  | blockSequence => exact room.1.trans room.2.room
  | blockMapping => exact (Nat.le_succ _).trans (room.1.trans room.2.room)

theorem HasRoom.ended {opening : Opening} (room : r.HasRoom depth around opening) : IsMalformed r.ended := by
  cases opening with
  | scalar => cases room
  | nothing => cases room
  | _ => exact room.2.ended

theorem StandsIn.hasRoom {opening : Opening} {block indentless : Bool} {p : Properties}
    (stands : r.StandsIn around) (near : depth + indentless.toNat ≤ around.sum) (here : r.tokens = t :: rest)
    (opens : t.opening? block indentless p = some opening)
    (noScalar : ∀ text plain, opening = .scalar text plain → False) (something : opening = .nothing → False) :
    r.HasRoom depth around opening := by
  have further (w : Nat) : depth + w ≤ (w :: around).sum := by
    rw [List.sum_cons]
    omega
  unfold Token.opening? at opens
  split at opens
  · cases opens
    exact ⟨near, stands⟩
  · cases opens
    exact (noScalar _ _ rfl).elim
  · cases opens
    exact ⟨further 2, stands.enter here rfl (by decide)⟩
  · cases opens
    exact ⟨further 1, stands.enter here rfl (by decide)⟩
  · cases opens
    exact ⟨further 1, stands.enter here rfl (by decide)⟩
  · cases opens
    exact ⟨further 2, stands.enter here rfl (by decide)⟩
  · split at opens <;> cases opens
    exact (something rfl).elim

theorem eq_scalar_of_opening {block indentless plain : Bool} {p : Properties} {text : String}
    (opens : t.opening? block indentless p = some (.scalar text plain)) : t = .scalar text plain := by
  unfold Token.opening? at opens
  split at opens <;> try cases opens
  · rfl
  · split at opens <;> cases opens

/--
What composing keeps. A node leaves the collections around it as they are; what follows the beginning of a collection
leaves it. The mappings of one entry in a sequence, and sequences in a mapping, are one level further in.
-/
structure StaysWithin (fuel : Nat) : Prop where
  ofNode : ∀ {depth block indentless r around}, StandsIn around r → depth + indentless.toNat ≤ around.sum →
    Ends (node fuel depth block indentless r) (·.2.StandsIn around) IsMalformed
  ofCollection : ∀ {depth opening p r around}, HasRoom depth around r opening →
    Ends (collection fuel depth opening p r) (·.2.StandsIn around) IsMalformed
  ofNodeUnless : ∀ {depth stops block indentless r around}, StandsIn around r →
    depth + indentless.toNat ≤ around.sum →
    Ends (nodeUnless fuel depth stops block indentless r) (·.2.StandsIn around) IsMalformed
  ofValueAfterKey : ∀ {depth stops block r around}, StandsIn around r → depth + block.toNat ≤ around.sum →
    Ends (valueAfterKey fuel depth stops block r) (·.2.StandsIn around) IsMalformed
  ofBlockItems : ∀ {depth r w around}, StandsIn (w :: around) r → depth ≤ (w :: around).sum →
    Ends (blockItems fuel depth r) (·.2.StandsIn around) IsMalformed
  ofIndentlessItems : ∀ {depth r around}, StandsIn around r → depth ≤ around.sum →
    Ends (indentlessItems fuel depth r) (·.2.StandsIn around) IsMalformed
  ofBlockEntries : ∀ {depth r w around}, StandsIn (w :: around) r → depth + 1 ≤ (w :: around).sum →
    Ends (blockEntries fuel depth r) (·.2.StandsIn around) IsMalformed
  ofFlowItems : ∀ {depth first r w around}, StandsIn (w :: around) r → depth + 1 ≤ (w :: around).sum →
    Ends (flowItems fuel depth first r) (·.2.StandsIn around) IsMalformed
  ofFlowItem : ∀ {depth r w around}, StandsIn (w :: around) r → depth + 1 ≤ (w :: around).sum →
    Ends (flowItem fuel depth r) (·.2.StandsIn around) IsMalformed
  ofFlowEntries : ∀ {depth first r w around}, StandsIn (w :: around) r → depth ≤ (w :: around).sum →
    Ends (flowEntries fuel depth first r) (·.2.StandsIn around) IsMalformed
  ofFlowEntry : ∀ {depth r w around}, StandsIn (w :: around) r → depth ≤ (w :: around).sum →
    Ends (flowEntry fuel depth r) (·.2.StandsIn around) IsMalformed

namespace StaysWithin

theorem node_succ {block indentless : Bool} (stays : StaysWithin fuel) (stands : r.StandsIn around)
    (near : depth + indentless.toNat ≤ around.sum) :
    Ends (node (fuel + 1) depth block indentless r) (·.2.StandsIn around) IsMalformed := by
  unfold node
  apply stands.peek.bind
  rintro t ⟨rest, here⟩
  dsimp only
  split
  · split
    · exact ends_malformed _
    · exact .ok (stands.pass here rfl rfl)
  · apply stands.properties.bind
    rintro ⟨p, r⟩ stands
    apply stands.peek.bind
    rintro t ⟨rest, here⟩
    dsimp only
    split
    · exact ends_malformed _
    · next opening opens =>
        split
        · exact ends_malformed _
        · split
          · rw [eq_scalar_of_opening opens] at here
            exact .ok ((stands.pass here rfl rfl).add _ _)
          · exact .ok (stands.add _ _)
          · next noScalar something => exact stays.ofCollection (stands.hasRoom near here opens noScalar something)

theorem collection_succ {opening : Opening} {p : Properties} (stays : StaysWithin fuel)
    (room : r.HasRoom depth around opening) :
    Ends (collection (fuel + 1) depth opening p r) (·.2.StandsIn around) IsMalformed := by
  unfold collection
  rw [if_neg (Nat.not_le.2 room.lt_maxDepth)]
  cases opening with
  | scalar => cases room
  | nothing => cases room
  | indentless =>
      apply (stays.ofIndentlessItems (room.2.add _ _) room.1).bind
      rintro ⟨items, r⟩ stands
      exact .ok (stands.complete _ _)
  | flowSequence =>
      apply (stays.ofFlowItems (room.2.add _ _) room.1).bind
      rintro ⟨items, r⟩ stands
      exact .ok (stands.complete _ _)
  | flowMapping =>
      apply (stays.ofFlowEntries (room.2.add _ _) room.1).bind
      rintro ⟨entries, r⟩ stands
      exact .ok (stands.complete _ _)
  | blockSequence =>
      apply (stays.ofBlockItems (room.2.add _ _) room.1).bind
      rintro ⟨items, r⟩ stands
      exact .ok (stands.complete _ _)
  | blockMapping =>
      apply (stays.ofBlockEntries (room.2.add _ _) room.1).bind
      rintro ⟨entries, r⟩ stands
      exact .ok (stands.complete _ _)

theorem nodeUnless_succ {stops : List Token} {block indentless : Bool} (stays : StaysWithin fuel)
    (stands : r.StandsIn around) (near : depth + indentless.toNat ≤ around.sum) :
    Ends (nodeUnless (fuel + 1) depth stops block indentless r) (·.2.StandsIn around) IsMalformed := by
  unfold nodeUnless
  apply stands.peek.bind
  rintro t ⟨rest, here⟩
  split
  · exact .ok (stands.add _ _)
  · exact stays.ofNode stands near

theorem valueAfterKey_succ {stops : List Token} {block : Bool} (stays : StaysWithin fuel)
    (stands : r.StandsIn around) (near : depth + block.toNat ≤ around.sum) :
    Ends (valueAfterKey (fuel + 1) depth stops block r) (·.2.StandsIn around) IsMalformed := by
  unfold valueAfterKey
  apply stands.peek.bind
  rintro t ⟨rest, here⟩
  split
  · exact stays.ofNodeUnless (stands.pass here rfl rfl) near
  · exact .ok (stands.add _ _)

theorem blockItems_succ (stays : StaysWithin fuel) (stands : r.StandsIn (w :: around))
    (near : depth ≤ (w :: around).sum) : Ends (blockItems (fuel + 1) depth r) (·.2.StandsIn around) IsMalformed := by
  unfold blockItems
  apply stands.peek.bind
  rintro t ⟨rest, here⟩
  dsimp only
  split
  · apply (stays.ofNodeUnless (stands.pass here rfl rfl) near).bind
    rintro ⟨item, r⟩ stands
    apply (stays.ofBlockItems stands near).bind
    rintro ⟨more, r⟩ stands
    exact .ok stands
  · exact .ok (stands.leave here rfl)
  · exact ends_malformed _

theorem indentlessItems_succ (stays : StaysWithin fuel) (stands : r.StandsIn around) (near : depth ≤ around.sum) :
    Ends (indentlessItems (fuel + 1) depth r) (·.2.StandsIn around) IsMalformed := by
  unfold indentlessItems
  apply stands.peek.bind
  rintro t ⟨rest, here⟩
  dsimp only
  split
  · apply (stays.ofNodeUnless (stands.pass here rfl rfl) near).bind
    rintro ⟨item, r⟩ stands
    apply (stays.ofIndentlessItems stands near).bind
    rintro ⟨more, r⟩ stands
    exact .ok stands
  · exact .ok stands

theorem blockEntries_succ (stays : StaysWithin fuel) (stands : r.StandsIn (w :: around))
    (near : depth + 1 ≤ (w :: around).sum) :
    Ends (blockEntries (fuel + 1) depth r) (·.2.StandsIn around) IsMalformed := by
  unfold blockEntries
  apply stands.peek.bind
  rintro t ⟨rest, here⟩
  dsimp only
  split
  · apply (stays.ofNodeUnless (stands.pass here rfl rfl) near).bind
    rintro ⟨key, r⟩ stands
    apply (stays.ofValueAfterKey stands near).bind
    rintro ⟨value, r⟩ stands
    apply (stays.ofBlockEntries stands near).bind
    rintro ⟨more, r⟩ stands
    exact .ok stands
  · exact .ok (stands.leave here rfl)
  · exact ends_malformed _

theorem flowItems_succ {first : Bool} (stays : StaysWithin fuel) (stands : r.StandsIn (w :: around))
    (near : depth + 1 ≤ (w :: around).sum) :
    Ends (flowItems (fuel + 1) depth first r) (·.2.StandsIn around) IsMalformed := by
  unfold flowItems
  apply stands.peek.bind
  rintro t ⟨rest, here⟩
  split
  · exact .ok (stands.leave here rfl)
  · exact stays.ofFlowItem (stands.pass here rfl rfl) near
  · exact ends_malformed _
  · exact stays.ofFlowItem stands near

theorem flowItem_succ (stays : StaysWithin fuel) (stands : r.StandsIn (w :: around))
    (near : depth + 1 ≤ (w :: around).sum) :
    Ends (flowItem (fuel + 1) depth r) (·.2.StandsIn around) IsMalformed := by
  unfold flowItem
  apply stands.peek.bind
  rintro t ⟨rest, here⟩
  dsimp only
  split
  · exact .ok (stands.leave here rfl)
  · apply (stays.ofNodeUnless ((stands.pass here rfl rfl).add _ _) near).bind
    rintro ⟨key, r⟩ stands
    apply (stays.ofValueAfterKey stands near).bind
    rintro ⟨value, r⟩ stands
    apply (stays.ofFlowItems (stands.complete _ _) near).bind
    rintro ⟨more, r⟩ stands
    exact .ok stands
  · apply (stays.ofNode stands (show depth ≤ _ from (Nat.le_succ depth).trans near)).bind
    rintro ⟨item, r⟩ stands
    apply (stays.ofFlowItems stands near).bind
    rintro ⟨more, r⟩ stands
    exact .ok stands

theorem flowEntries_succ {first : Bool} (stays : StaysWithin fuel) (stands : r.StandsIn (w :: around))
    (near : depth ≤ (w :: around).sum) :
    Ends (flowEntries (fuel + 1) depth first r) (·.2.StandsIn around) IsMalformed := by
  unfold flowEntries
  apply stands.peek.bind
  rintro t ⟨rest, here⟩
  split
  · exact .ok (stands.leave here rfl)
  · exact stays.ofFlowEntry (stands.pass here rfl rfl) near
  · exact ends_malformed _
  · exact stays.ofFlowEntry stands near

theorem flowEntry_succ (stays : StaysWithin fuel) (stands : r.StandsIn (w :: around))
    (near : depth ≤ (w :: around).sum) :
    Ends (flowEntry (fuel + 1) depth r) (·.2.StandsIn around) IsMalformed := by
  unfold flowEntry
  apply stands.peek.bind
  rintro t ⟨rest, here⟩
  dsimp only
  split
  · exact .ok (stands.leave here rfl)
  · apply (stays.ofNodeUnless (stands.pass here rfl rfl) near).bind
    rintro ⟨key, r⟩ stands
    apply (stays.ofValueAfterKey stands near).bind
    rintro ⟨value, r⟩ stands
    apply (stays.ofFlowEntries stands near).bind
    rintro ⟨more, r⟩ stands
    exact .ok stands
  · apply (stays.ofNode stands near).bind
    rintro ⟨key, r⟩ stands
    apply (stays.ofFlowEntries (stands.add _ _) near).bind
    rintro ⟨more, r⟩ stands
    exact .ok stands

end StaysWithin

theorem staysWithin (fuel : Nat) : StaysWithin fuel := by
  induction fuel with
  | zero =>
      constructor
      case ofCollection =>
        intro _ _ _ _ _ room
        rw [collection]
        exact .error room.ended
      -- Without fuel every reader ends as the tokens do.
      all_goals
        intros
        simp only [node, nodeUnless, valueAfterKey, blockItems, indentlessItems, blockEntries, flowItems, flowItem,
          flowEntries, flowEntry]
        exact .error (StandsIn.ended ‹_›)
  | succ fuel ih =>
      exact ⟨ih.node_succ, ih.collection_succ, ih.nodeUnless_succ, ih.valueAfterKey_succ, ih.blockItems_succ,
        ih.indentlessItems_succ, ih.blockEntries_succ, ih.flowItems_succ, ih.flowItem_succ, ih.flowEntries_succ,
        ih.flowEntry_succ⟩

theorem ends_rootNode (stands : r.StandsIn []) : Ends r.rootNode (·.2.StandsIn []) IsMalformed :=
  (staysWithin _).ofNode stands (Nat.le_refl 0)

/-- No directive begins or ends a collection. -/
theorem ends_directives {version : Bool} {declared : List (String × String)} {tokens : List Token}
    (nests : nestsWithin around tokens = true) :
    Ends (directives version declared tokens) (fun found => nestsWithin around found.2 = true) IsMalformed := by
  fun_induction directives version declared tokens with
  | case1 => exact ends_malformed _
  | case2 => exact ends_malformed _
  | case3 version declared major rest _ _ ih => exact ih nests
  | case4 => exact ends_malformed _
  | case5 version declared name start rest _ ih => exact ih nests
  | case6 version declared rest ih => exact ih nests
  | case7 => exact .ok nests

theorem StandsIn.documentStart (stands : r.StandsIn around) :
    Ends r.documentStart (·.StandsIn around) IsMalformed := by
  unfold Reading.documentStart
  apply (ends_directives stands.nests).bind
  rintro ⟨declared, rest⟩ nests
  have declares : StandsIn around { r with tokens := rest, handles := declared ++ usualHandles } :=
    ⟨stands.ended, stands.room, nests⟩
  apply declares.peek.bind
  rintro t ⟨more, here⟩
  split
  · exact .ok (declares.pass here rfl rfl)
  · exact ends_malformed _

private theorem ends_startedDocument (stands : r.StandsIn []) : Ends (do
    let r ← r.documentStart
    match ← r.peek with
    | .directive _ | .documentStart | .documentEnd | .streamEnd => return r.add none .empty
    | _ => r.rootNode : Except Failure (NodeId × Reading)) (·.2.StandsIn []) IsMalformed := by
  apply stands.documentStart.bind
  intro r stands
  apply stands.peek.bind
  rintro t -
  split
  · exact .ok (stands.add _ _)
  · exact .ok (stands.add _ _)
  · exact .ok (stands.add _ _)
  · exact .ok (stands.add _ _)
  · exact ends_rootNode stands

theorem StandsIn.document (stands : r.StandsIn []) : Ends r.document (·.2.StandsIn []) IsMalformed := by
  have starts := ends_startedDocument stands
  unfold Reading.document
  apply stands.peek.bind
  rintro t -
  split
  · exact starts
  · exact starts
  · exact ends_rootNode stands

theorem nestsWithin_afterEnd {tokens : List Token} (nests : nestsWithin around tokens = true) :
    nestsWithin around (afterEnd tokens) = true := by
  fun_induction afterEnd tokens with
  | case1 rest ih => exact ih nests
  | case2 => exact nests

theorem StandsIn.finish (stands : r.StandsIn []) : Ends r.finish (fun _ => True) IsMalformed := by
  have last : StandsIn [] { r with tokens := afterEnd r.tokens } :=
    ⟨stands.ended, stands.room, nestsWithin_afterEnd stands.nests⟩
  unfold Reading.finish
  apply last.peek.bind
  rintro t -
  split
  · exact .ok trivial
  · exact last.documentStart.bind fun _ _ => ends_malformed _

end Reading

/-- Whether a text is within the limits of its tokens, and these do not nest too deep. -/
theorem Tree.ends_ofText {chars : List Char} (within : IsWithin chars)
    (nests : nestsWithin [] (tokens chars).1 = true) : Ends (Tree.ofText? chars) (fun _ => True) IsMalformed := by
  unfold Tree.ofText?
  have ended : IsMalformed ((tokens chars).2.getD (.malformed .missingNode)) := by
    cases failed : (tokens chars).2 with
    | none => exact ⟨_, rfl⟩
    | some failure => exact isMalformed_of_tokens within failed
  have stands : Reading.StandsIn [] ⟨(tokens chars).1, (tokens chars).2.getD (.malformed .missingNode),
      Reading.usualHandles, [], .empty⟩ := ⟨ended, Nat.zero_le _, nests⟩
  apply stands.peek.bind
  rintro t -
  split
  · exact .ok trivial
  · apply stands.document.bind
    rintro ⟨root, r⟩ stands
    exact stands.finish.bind fun _ _ => .ok trivial

end QueryHooks.Yaml
