import QueryHooks.Proofs.Bundle.Reachability
import QueryHooks.Proofs.Bundle.Resolve
import QueryHooks.Proofs.Reference.Name
import QueryHooks.Proofs.Value.Replace

/-!
Moving a part of a document behind a reference. The part becomes a top-level entry, and where it was
stands a reference to that entry. Spot by spot both documents are bundled in the same way: outside
of the part the new entry is not being followed, and from inside of it no reference leads back to
where it was.
-/

namespace QueryHooks

open Value (Step Location)

def Reference.toEntry (name : String) : String := "#/" ++ name

theorem Reference.target_toEntry (workdir : Place) (document name : String) :
    target? workdir document (toEntry name) = some ⟨document, "/" ++ name⟩ := by
  have whole : toEntry name = "#" ++ ("/" ++ name) := by
    rw [toEntry, ← String.append_assoc]
    rfl
  rw [whole]
  exact target_of_mark workdir document ("/" ++ name)

/-- A document with the part at a place moved to a new top-level entry, and a reference to it in the place. -/
def Value.movedOut (v : Value) (place : Location) (name : String) : Value :=
  match v.at? place with
  | none => v
  | some t => (v.replaceAt place (Reference.value (Reference.toEntry name))).withEntry name t

namespace Bundle

variable {b : Bundle} {place : Location} {name : String} {t : Value}

def movedOut (b : Bundle) (place : Location) (name : String) : Bundle :=
  { b with root := b.root.movedOut place name }

/-- Whether a reference leads into the root, by these names. -/
def PointsIntoRoot (b : Bundle) (document reference : String) (names : List String) : Prop :=
  ∃ target, Reference.target? b.workdir document reference = some target ∧
  target.document = b.rootKey ∧
    Pointer.segments? target.pointer = some names

/--
What allows a part to be moved out. It lies below the root and in no reference, and the new entry is
named by a word that is not in use. No reference of any document leads to the part or below it, to
the new entry or below it, or to the whole root; and none that can be reached from the part leads to
a collection around it.
-/
structure Movable (b : Bundle) (place : Location) (name : String) (t : Value) : Prop where
  isMap : b.root.isMap = true
  found : b.root.at? place = some t
  below : place ≠ []
  clear : ∀ before step rest v, place = before ++ step :: rest → b.root.at? before = some v →
  v.reference? = none
  word : IsWord name
  fresh : b.root.get? name = none
  away : ∀ document whole reference names, b.Holds document whole → reference ∈ whole.references →
    b.PointsIntoRoot document reference names →
      names ≠ [] ∧ names.head? ≠ some name ∧ Pointer.Avoids b.root place names
  back : ∀ document reference names location, b.ReachableFrom b.rootKey t document reference →
    b.PointsIntoRoot document reference names → Pointer.location? b.root names = some location →
    ¬ location <+: place

/-- The names by which the references of the documents lead into the root. -/
def points (b : Bundle) : List (List String) :=
  b.documents.flatMap fun (key, document) =>
    document.references.filterMap fun reference =>
      (Reference.target? b.workdir key reference).bind fun target =>
        if target.document = b.rootKey then Pointer.segments? target.pointer else none

theorem mem_points {document reference : String} {whole : Value} {names : List String}
    (held : b.Holds document whole) (inside : reference ∈ whole.references)
    (into : b.PointsIntoRoot document reference names) :
    names ∈ b.points := by
  obtain ⟨target, named, isRoot, segments⟩ := into
  refine List.mem_flatMap.2 ⟨(document, whole), mem_documents held,
    List.mem_filterMap.2 ⟨reference, inside, ?_⟩⟩
  rw [named, Option.bind_some, if_pos isRoot, segments]

/-- A part can be moved out when all references into the root lead away from it and from what is around it. -/
theorem Movable.of_points (isMap : b.root.isMap = true) (found : b.root.at? place = some t)
    (below : place ≠ []) (clear : b.root.isClear place = true) (word : IsWord name)
    (fresh : b.root.get? name = none)
    (apart : ∀ names ∈ b.points, names.head? ≠ some name ∧ ∃ first rest, names = first :: rest ∧
      ∀ step, Pointer.stepOf? b.root first = some step → place.head? ≠ some step) :
    b.Movable place name t where
  isMap := isMap
  found := found
  below := below
  clear := fun _ _ _ _ way here => Value.reference_of_isClear clear way here
  word := word
  fresh := fresh
  away := by
    intro document whole reference names held inside into
    obtain ⟨notEntry, first, rest, isCons, off⟩ := apart names (mem_points held inside into)
    refine ⟨by rw [isCons]; exact List.cons_ne_nil _ _, notEntry, ?_⟩
    intro before after whole leads
    cases before with
    | nil => exact below (Option.some.inj leads).symm
    | cons own before =>
        rw [isCons] at whole
        obtain ⟨step, _, taken, isPlace⟩ := Pointer.exists_of_location_cons leads
        rw [(List.cons.inj whole).1] at off
        exact off step taken (by rw [isPlace]; rfl)
  -- What can be reached from the moved part is written in a document, so it is one of the points as well.
  back := by
    intro document reference names location reachable into leads onWay
    obtain ⟨whole, held, inside⟩ :=
      reachable.exists_document ⟨b.root, b.holds_root, Value.references_at found⟩
    obtain ⟨_, first, rest, isCons, off⟩ := apart names (mem_points held inside into)
    subst isCons
    obtain ⟨step, ahead, taken, isLocation⟩ := Pointer.exists_of_location_cons leads
    obtain ⟨behind, isPlace⟩ := onWay
    exact off step taken (by rw [← isPlace, isLocation]; rfl)

/-- The absolute name of the new entry. -/
def entryKey (b : Bundle) (name : String) : String := (Target.mk b.rootKey ("/" ++ name)).key

/-- A spot's value is written in the document of the spot. -/
def Spot.IsWritten (c : Spot b) : Prop := ∃ whole, b.Holds c.document whole ∧
  c.value.references ⊆ whole.references

theorem Movable.root_eq (movable : b.Movable place name t) :
    (b.movedOut place name).root =
      (b.root.replaceAt place (Reference.value (Reference.toEntry name))).withEntry name t := by
  change b.root.movedOut place name = _
  rw [Value.movedOut, movable.found]

theorem answer_movedOut_of_ne {key : String} (other : key ≠ b.rootKey) :
    (b.movedOut place name).answer key = b.answer key := by
  have other' : key ≠ (b.movedOut place name).rootKey := other
  rw [answer, answer, if_neg other, if_neg other']
  rfl

private theorem reference_isTree (name : String) : (Reference.value name).IsTree := rfl

theorem Movable.trees (movable : b.Movable place name t) (trees : b.Trees) :
    (b.movedOut place name).Trees where
  root := by
    rw [movable.root_eq]
    have part : t.IsTree := (Value.tree_of_at trees.root movable.found).1
    exact (trees.root.replaceAt (reference_isTree _) place).withEntry part name
  library := trees.library

theorem Movable.walk_entry (movable : b.Movable place name t) (trees : b.Trees) :
    Pointer.walk (b.movedOut place name).root [name] = .ok t := by
  have tree := (Value.tree_of_at trees.root movable.found).1
  cases way : place with
  | nil => exact absurd way movable.below
  | cons step rest =>
      have fresh : (b.root.replaceAt (step :: rest)
          (Reference.value (Reference.toEntry name))).get? name = none := by
        rw [Value.get_eq_child]
        apply Value.child_replaceAt_eq_none
        rw [← Value.get_eq_child]
        exact movable.fresh
      rw [← way, movable.root_eq, way]
      exact Pointer.walk_entry tree (Value.isMap_replaceAt movable.isMap) fresh

theorem Movable.key_ne (movable : b.Movable place name t) (unmarked : Unmarked b.rootKey)
    {c : Spot b} {reference : String} {target : Target} (written : c.IsWritten)
    (isReference : c.reference? = some reference)
    (named : Reference.target? b.workdir c.document reference = some target) :
    target.key ≠ b.entryKey name := by
  intro same
  have pointerFree : Unmarked ("/" ++ name) := by
    intro marked
    rw [String.toList_append] at marked
    rcases List.mem_append.1 marked with atFirst | within
    · exact absurd atFirst (by decide)
    · exact movable.word.not_mem (by decide) within
  have isEntry : target = ⟨b.rootKey, "/" ++ name⟩ :=
    Target.eq_of_key_eq_unmarked unmarked pointerFree same
  subst isEntry
  obtain ⟨whole, held, inside⟩ := written
  have points : b.PointsIntoRoot c.document reference [name] :=
    ⟨_, named, rfl, Pointer.segments_of_word movable.word⟩
  exact (movable.away _ whole reference [name] held (inside (Spot.reference_mem isReference)) points).2.1 rfl

theorem answer_root (b : Bundle) : b.answer b.rootKey = .ok b.root := if_pos rfl

theorem part_of_failed {reference : String} {target : Target} {whole : Value}
    {problem : PointerProblem} (held : b.answer target.document = .ok whole)
    (failed : Pointer.follow whole target.pointer = .error problem) :
    b.part reference target = .error (.spec (.pointer reference problem)) := by
  rw [part, held]
  simp only [failed]

theorem part_of_reached {reference : String} {target : Target} {whole v : Value}
    (held : b.answer target.document = .ok whole)
    (reached : Pointer.follow whole target.pointer = .ok v) :
    b.part reference target = .ok v :=
  part_ok_iff.2 ⟨whole, held, reached⟩

private theorem Movable.follow_movedOut (movable : b.Movable place name t) (trees : b.Trees)
    {pointer : String} {names : List String} (segments : Pointer.segments? pointer = some names)
    (notWhole : names ≠ []) (notEntry : names.head? ≠ some name) :
    Pointer.follow (b.movedOut place name).root pointer =
      Pointer.walk (b.root.replaceAt place (Reference.value (Reference.toEntry name))) names := by
  rw [Pointer.follow, segments]
  cases names with
  | nil => exact absurd rfl notWhole
  | cons first rest =>
      have different : first ≠ name := fun same => notEntry (congrArg _ same)
      rw [movable.root_eq]
      exact Pointer.walk_withEntry (trees.root.replaceAt (reference_isTree _) place) different

/-- What a reference leads to in the two documents: nothing, the same, or a collection around the place of the part. -/
inductive Meets (b : Bundle) (place : Location) (name : String) (reference : String)
    (target : Target) : Prop
  | nothing {failure failure' : Failure} (missing : b.part reference target = .error failure)
      (missing' : (b.movedOut place name).part reference target = .error failure')
  | same {v : Value} (found : b.part reference target = .ok v)
      (found' : (b.movedOut place name).part reference target = .ok v)
  | around {names : List String} {location rest : Location} {v : Value} (isRoot : target.document = b.rootKey)
      (segments : Pointer.segments? target.pointer = some names)
      (leads : Pointer.location? b.root names = some location) (on : location ++ rest = place)
      (here : b.root.at? location = some v) (found : b.part reference target = .ok v)
      (found' : (b.movedOut place name).part reference target =
        .ok (v.replaceAt rest (Reference.value (Reference.toEntry name))))

private theorem Movable.meets_root (movable : b.Movable place name t) (trees : b.Trees) {c : Spot b}
    {reference : String} {target : Target} (written : c.IsWritten)
    (isReference : c.reference? = some reference)
    (named : Reference.target? b.workdir c.document reference = some target)
    (isRoot : target.document = b.rootKey) :
    Meets b place name reference target := by
  have before : b.answer target.document = .ok b.root := isRoot ▸ b.answer_root
  have after : (b.movedOut place name).answer target.document = .ok (b.movedOut place name).root :=
    isRoot ▸ answer_root (b.movedOut place name)
  cases segments : Pointer.segments? target.pointer with
  | none =>
      have failed (whole : Value) : Pointer.follow whole target.pointer = .error .notPointer := by
        rw [Pointer.follow, segments]
      exact .nothing (part_of_failed before (failed _)) (part_of_failed after (failed _))
  | some names =>
      obtain ⟨whole, held, inside⟩ := written
      -- A reference into the root is not to all of it or the new entry, and its way does not lead through the place.
      obtain ⟨notWhole, notEntry, avoids⟩ := movable.away _ whole reference names held
        (inside (Spot.reference_mem isReference)) ⟨target, named, isRoot, segments⟩
      have follows : Pointer.follow b.root target.pointer = Pointer.walk b.root names := by
        rw [Pointer.follow, segments]
      have follows' := movable.follow_movedOut trees segments notWhole notEntry
      cases Pointer.shift_of_avoids trees.root (reference_isTree (Reference.toEntry name)) movable.found avoids with
      | neither walked walked' =>
          exact .nothing (part_of_failed before (follows.trans walked))
            (part_of_failed after (follows'.trans walked'))
      | around leads on walked walked' =>
          obtain ⟨_, leads', here⟩ := (Pointer.walk_ok_iff trees.root).1 walked
          rw [leads] at leads'
          cases leads'
          exact .around isRoot segments leads on here
            (part_of_reached before (follows.trans walked))
            (part_of_reached after (follows'.trans walked'))
      | apart _ _ walked walked' =>
          exact .same (part_of_reached before (follows.trans walked))
            (part_of_reached after (follows'.trans walked'))

theorem Movable.meets (movable : b.Movable place name t) (trees : b.Trees) {c : Spot b}
    {reference : String} {target : Target} (written : c.IsWritten)
    (isReference : c.reference? = some reference)
    (named : Reference.target? b.workdir c.document reference = some target) :
    Meets b place name reference target := by
  by_cases isRoot : target.document = b.rootKey
  · exact movable.meets_root trees written isReference named isRoot
  · have same : (b.movedOut place name).part reference target = b.part reference target := by
      rw [part, part, answer_movedOut_of_ne isRoot]
    cases found : b.part reference target with
    | error failure => exact .nothing found (same.trans found)
    | ok v => exact .same found (same.trans found)

/--
How the value of a spot of the moved document stands to one of the document as it was. It is the
same, and either all references in it can be reached from the part or the new entry is not being
followed; or it is a collection around the place, with the reference to the new entry there.
-/
inductive Stands (b : Bundle) (place : Location) (name : String) (t : Value) (c : Spot b)
    (c' : Spot (b.movedOut place name)) : Prop
  | same (value : c'.value = c.value) (free : c.LiesBehind b.rootKey t ∨ b.entryKey name ∉ c'.followed)
  | around {before rest : Location} (free : b.entryKey name ∉ c'.followed) (document : c.document = b.rootKey)
      (on : before ++ rest = place) (here : b.root.at? before = some c.value)
      (value : c'.value = c.value.replaceAt rest (Reference.value (Reference.toEntry name)))

/-- When a spot of the moved document does the work of one of the document as it was. -/
structure Counterpart (b : Bundle) (place : Location) (name : String) (t : Value) (c : Spot b)
    (c' : Spot (b.movedOut place name)) : Prop where
  document : c'.document = c.document
  followed : ∀ key, key ≠ b.entryKey name → (key ∈ c'.followed ↔ key ∈ c.followed)
  written : c.IsWritten
  stands : Stands b place name t c c'

theorem Spot.IsWritten.part {c part : Spot b} (written : c.IsWritten) (inside : part ∈ c.parts) :
    part.IsWritten := by
  obtain ⟨whole, held, subset⟩ := written
  obtain ⟨sameDocument, _, member⟩ := of_mem_parts inside
  exact ⟨whole, sameDocument ▸ held, List.Subset.trans (Value.references_part member) subset⟩

theorem Spot.isWritten_of_part {c : Spot b} {reference : String} {target : Target}
    (found : b.part reference target = .ok c.value) (document : c.document = target.document) :
    c.IsWritten := by
  obtain ⟨whole, held, reached⟩ := part_ok_iff.1 found
  exact ⟨whole, document ▸ held, Pointer.references_follow reached⟩

theorem Spot.value_of_parts_getElem {c part : Spot b} {i : Nat} (here : c.parts[i]? = some part) :
    c.value.parts[i]? = some part.value := by
  rw [← c.map_value_parts, List.getElem?_map, here]
  rfl

private theorem Stands.of_modify {v : Value} {before rest : Location} {step : Step} {i j : Nat}
    {part : Spot b} {part' : Spot (b.movedOut place name)} (free : b.entryKey name ∉ part'.followed)
    (document : part.document = b.rootKey) (on : before ++ step :: rest = place)
    (here : b.root.at? before = some v) (position : v.position? step = some i)
    (inside : v.parts[j]? = some part.value)
    (inside' : (v.parts.modify i fun p =>
      p.replaceAt rest (Reference.value (Reference.toEntry name)))[j]? = some part'.value) :
    Stands b place name t part part' := by
  by_cases onWay : i = j
  · subst onWay
    rw [List.getElem?_modify_eq, inside] at inside'
    refine .around free document ((List.append_assoc before [step] rest).trans on) ?_
      (Option.some.inj inside').symm
    rw [Value.at_append, here, Option.bind_some, Value.at?, Value.child?, position,
      Option.bind_some, inside]
    rfl
  · rw [List.getElem?_modify_ne _ _ onWay, inside] at inside'
    exact .same (Option.some.inj inside').symm (.inr free)

namespace Counterpart

variable {c next : Spot b} {c' next' : Spot (b.movedOut place name)}

theorem part (counterpart : Counterpart b place name t c c') {i : Nat} {part : Spot b}
    {part' : Spot (b.movedOut place name)} (here : c.parts[i]? = some part)
    (here' : c'.parts[i]? = some part') (stands : Stands b place name t part part') :
    Counterpart b place name t part part' := by
  have inside := List.mem_of_getElem? here
  obtain ⟨document, followed, _⟩ := Spot.of_mem_parts inside
  obtain ⟨document', followed', _⟩ := Spot.of_mem_parts (List.mem_of_getElem? here')
  constructor
  · rw [document', document]
    exact counterpart.document
  · rw [followed', followed]
    exact counterpart.followed
  · exact counterpart.written.part inside
  · exact stands

theorem onward (counterpart : Counterpart b place name t c c') {reference : String}
    {target : Target} (found : b.part reference target = .ok next.value)
    (document : next.document = target.document) (document' : next'.document = target.document)
    (followed : next.followed = target.key :: c.followed)
    (followed' : next'.followed = target.key :: c'.followed)
    (stands : Stands b place name t next next') :
    Counterpart b place name t next next' where
  document := document'.trans document.symm
  followed := by
    intro key other
    rw [followed, followed', List.mem_cons, List.mem_cons, counterpart.followed key other]
  written := Spot.isWritten_of_part found document
  stands := stands

/-- A reference in both does the same in both: no reference of the documents has the name of the new entry. -/
private theorem matches_of_reference (movable : b.Movable place name t) (trees : b.Trees)
    (unmarked : Unmarked b.rootKey) (counterpart : Counterpart b place name t c c')
    (same : c'.value = c.value) (free : c.LiesBehind b.rootKey t ∨ b.entryKey name ∉ c'.followed)
    {reference : String} (isReference : c.reference? = some reference) :
    c.Matches (Counterpart b place name t) c' := by
  have isReference' : c'.reference? = some reference := by
    rw [Spot.reference?, same]
    exact isReference
  cases named : Reference.target? b.workdir c.document reference with
  | none =>
      have named' : Reference.target? b.workdir c'.document reference = none :=
        counterpart.document ▸ named
      exact .stuck (Spot.lead_of_unnamed isReference named)
        (Spot.lead_of_unnamed isReference' named')
  | some target =>
      have named' : Reference.target? b.workdir c'.document reference = some target :=
        counterpart.document ▸ named
      -- The target is not the new entry, so it is being followed at both spots or at neither.
      have other := movable.key_ne unmarked counterpart.written isReference named
      by_cases before : target.key ∈ c.followed
      · have before' : target.key ∈ c'.followed := (counterpart.followed _ other).2 before
        exact .kept (Spot.lead_of_followed isReference named before)
          (Spot.lead_of_followed isReference' named' before') same
      have before' : target.key ∉ c'.followed := fun inside =>
        before ((counterpart.followed _ other).1 inside)
      have stillFree (notFollowed : b.entryKey name ∉ c'.followed) :
          b.entryKey name ∉ target.key :: c'.followed := by
        rw [List.mem_cons, not_or]
        exact ⟨other.symm, notFollowed⟩
      cases movable.meets trees counterpart.written isReference named with
      | nothing missing missing' =>
          exact .stuck (Spot.lead_of_missing isReference named before missing)
            (Spot.lead_of_missing isReference' named' before' missing')
      | same found found' =>
          obtain ⟨next, lead, document, followed, value⟩ :=
            Spot.exists_onward isReference ⟨named, found⟩ before
          obtain ⟨next', lead', document', followed', value'⟩ :=
            Spot.exists_onward isReference' ⟨named', found'⟩ before'
          refine .onward lead lead'
            (counterpart.onward (value ▸ found) document document' followed followed' ?_)
          refine .same (value'.trans value.symm) ?_
          rcases free with behind | notFollowed
          · exact .inl (behind.onward lead)
          · exact .inr (followed' ▸ stillFree notFollowed)
      -- What the reference leads to has the moved part inside: no reference from behind that part does so.
      | around isRoot segments leads on here found found' =>
          obtain ⟨next, lead, document, followed, value⟩ :=
            Spot.exists_onward isReference ⟨named, found⟩ before
          obtain ⟨next', lead', document', followed', value'⟩ :=
            Spot.exists_onward isReference' ⟨named', found'⟩ before'
          refine .onward lead lead'
            (counterpart.onward (value ▸ found) document document' followed followed' ?_)
          rcases free with behind | notFollowed
          · have reachable := behind reference (Spot.occurs_of_reference isReference)
            have apart := movable.back _ _ _ _ reachable ⟨target, named, isRoot, segments⟩ leads
            exact absurd ⟨_, on⟩ apart
          · exact .around (followed' ▸ stillFree notFollowed) (document.trans isRoot) on
              (value ▸ here)
              (value'.trans (value ▸ rfl))

private theorem matches_of_same (movable : b.Movable place name t) (trees : b.Trees)
    (unmarked : Unmarked b.rootKey) (counterpart : Counterpart b place name t c c')
    (same : c'.value = c.value) (free : c.LiesBehind b.rootKey t ∨ b.entryKey name ∉ c'.followed) :
    c.Matches (Counterpart b place name t) c' := by
  cases isReference : c.reference? with
  | some reference =>
      exact counterpart.matches_of_reference movable trees unmarked same free isReference
  | none =>
      have isReference' : c'.reference? = none := by
        rw [Spot.reference?, same]
        exact isReference
      have lead := Spot.lead_of_none isReference
      refine .inward lead (Spot.lead_of_none isReference') ?_ ?_ ?_
      · rw [Spot.length_parts, Spot.length_parts, same]
      · intro outs _
        rw [same]
      · intro i part part' here here'
        refine counterpart.part here here' (.same ?_ ?_)
        · have value' := Spot.value_of_parts_getElem here'
          rw [same, Spot.value_of_parts_getElem here] at value'
          exact (Option.some.inj value').symm
        · rcases free with behind | notFollowed
          · exact .inl (behind.part lead (List.mem_of_getElem? here))
          · exact .inr ((Spot.of_mem_parts (List.mem_of_getElem? here')).2.1 ▸ notFollowed)

private theorem matches_at_place (movable : b.Movable place name t) (trees : b.Trees)
    (counterpart : Counterpart b place name t c c') (free : b.entryKey name ∉ c'.followed)
    (document : c.document = b.rootKey) (value : c.value = t)
    (value' : c'.value = Reference.value (Reference.toEntry name)) :
    c.Matches (Counterpart b place name t) c' := by
  have isReference' : c'.reference? = some (Reference.toEntry name) := by
    rw [Spot.reference?, value']
    rfl
  have found' :
      (b.movedOut place name).part (Reference.toEntry name) ⟨b.rootKey, "/" ++ name⟩ = .ok t := by
    apply part_of_reached (answer_root (b.movedOut place name))
    rw [Pointer.follow, Pointer.segments_of_word movable.word]
    exact movable.walk_entry trees
  have known := known_of_part found'
  let next' : Spot (b.movedOut place name) := ⟨b.rootKey, b.entryKey name :: c'.followed, t, known⟩
  have lead' : c'.lead = .onward next' := by
    refine Spot.lead_of_lands isReference' ⟨?_, found'⟩ free rfl rfl
    rw [counterpart.document, document]
    exact Reference.target_toEntry _ _ _
  refine .detour lead'
    { document := document.symm, followed := ?_, written := counterpart.written, stands := ?_ }
  · intro key other
    rw [List.mem_cons, counterpart.followed key other, or_iff_right other]
  · refine .same value.symm (.inl ?_)
    intro reference occurs
    rw [document]
    exact .start (value ▸ occurs)

private theorem matches_around (movable : b.Movable place name t)
    (counterpart : Counterpart b place name t c c') (free : b.entryKey name ∉ c'.followed)
    (document : c.document = b.rootKey) {before rest : Location} {step : Step}
    (on : before ++ step :: rest = place) (here : b.root.at? before = some c.value)
    (value : c'.value = c.value.replaceAt (step :: rest) (Reference.value (Reference.toEntry name))) :
    c.Matches (Counterpart b place name t) c' := by
  have found : c.value.at? (step :: rest) = some t := by
    have whole := movable.found
    rw [← on, Value.at_append, here] at whole
    exact whole
  obtain ⟨i, _, position, _⟩ := Value.exists_of_at_cons found
  have noReference : c.reference? = none := movable.clear before step rest c.value on.symm here
  have noReference' : c'.reference? = none := by
    rw [Spot.reference?, value]
    exact Value.reference_replaceAt found (Reference.value_ne_text _) noReference
  have parts' : c'.value.parts = c.value.parts.modify i
      fun part => part.replaceAt rest (Reference.value (Reference.toEntry name)) := by
    rw [value, Value.parts_replaceAt position]
  -- Both are gone into; they differ in one part, which is the next on the way to the place.
  refine .inward (Spot.lead_of_none noReference) (Spot.lead_of_none noReference') ?_ ?_ ?_
  · rw [Spot.length_parts, Spot.length_parts, parts', List.length_modify]
  · intro outs _
    rw [value, Value.replaceAt_cons position]
    exact Value.withParts_withParts (List.length_modify _ _ _) outs
  · intro j part part' inside inside'
    have member := List.mem_of_getElem? inside
    have member' := List.mem_of_getElem? inside'
    have stillFree : b.entryKey name ∉ part'.followed := (Spot.of_mem_parts member').2.1 ▸ free
    have partValue := Spot.value_of_parts_getElem inside'
    rw [parts'] at partValue
    exact counterpart.part inside inside'
      (.of_modify stillFree ((Spot.of_mem_parts member).1.trans document) on here
      position (Spot.value_of_parts_getElem inside) partValue)

theorem agrees (movable : b.Movable place name t) (trees : b.Trees) (unmarked : Unmarked b.rootKey)
    (counterpart : Counterpart b place name t c c') : c.Agrees c' := by
  refine Spot.agrees_of_matches ?_ counterpart
  intro c c' counterpart
  cases counterpart.stands with
  | same value free => exact counterpart.matches_of_same movable trees unmarked value free
  | @around before rest free document on here value =>
      cases rest with
      | nil =>
          have isPart : c.value = t := by
            have whole := movable.found
            rw [← on, List.append_nil, here] at whole
            exact Option.some.inj whole
          exact counterpart.matches_at_place movable trees free document isPart value
      | cons step rest => exact counterpart.matches_around movable free document on here value

end Counterpart

theorem Spot.exists_at {c : Spot b} {out : Value} (found : c.value.at? place = some t)
    (clear : ∀ before step rest v, place = before ++ step :: rest → c.value.at? before = some v → v.reference? = none)
    (done : c.resolve = .ok out) :
    ∃ inner : Spot b, inner.document = c.document ∧ inner.followed = c.followed ∧ inner.value = t ∧
      ∃ innerOut, inner.resolve = .ok innerOut := by
  induction place generalizing c out with
  | nil =>
      cases found
      exact ⟨c, rfl, rfl, rfl, out, done⟩
  | cons step place ih =>
      obtain ⟨i, v, position, inside, below⟩ := Value.exists_of_at_cons found
      have lead : c.lead = .inward := lead_of_none (clear [] step place c.value rfl rfl)
      obtain ⟨outs, resolved, _⟩ := (resolve_inward_ok_iff lead).1 done
      obtain ⟨part, here, isValue⟩ := c.exists_part (List.mem_of_getElem? inside)
      subst isValue
      have member : part.resolve ∈ outs.map .ok := resolved ▸ List.mem_map_of_mem here
      obtain ⟨partOut, _, partDone⟩ := List.mem_map.1 member
      have clear' : ∀ before step' rest v, place = before ++ step' :: rest →
        part.value.at? before = some v →
          v.reference? = none := by
        intro before step' rest v whole found'
        apply clear (step :: before) step' rest v (congrArg (step :: ·) whole)
        rw [Value.at?, Value.child?, position, Option.bind_some, inside]
        exact found'
      obtain ⟨inner, document, followed, value, innerDone⟩ := ih below clear' partDone.symm
      obtain ⟨partDocument, partFollowed, _⟩ := of_mem_parts here
      exact ⟨inner, document.trans partDocument, followed.trans partFollowed, value, innerDone⟩

private theorem Movable.parts_root (movable : b.Movable place name t) :
    ∃ step rest i, place = step :: rest ∧ b.root.position? step = some i ∧
    (b.movedOut place name).root.parts =
      (b.root.parts.modify i fun p => p.replaceAt rest (Reference.value (Reference.toEntry name))) ++ [t] := by
  obtain ⟨step, rest, way⟩ := List.exists_cons_of_ne_nil movable.below
  subst way
  obtain ⟨i, _, position, _⟩ := Value.exists_of_at_cons movable.found
  refine ⟨step, rest, i, rfl, position, ?_⟩
  rw [movable.root_eq, Value.parts_withEntry (Value.isMap_replaceAt movable.isMap),
    Value.parts_replaceAt position]

/-- The parts of the moved root stand for the parts of the root, and after them comes the part that was moved. -/
private theorem Movable.parts_start (movable : b.Movable place name t) :
    ∃ front last, (b.movedOut place name).start.parts = front ++ [last] ∧
    front.length = b.start.parts.length ∧
      (∀ (i : Nat) part part', b.start.parts[i]? = some part → front[i]? = some part' →
        Counterpart b place name t part part') ∧
      last.document = b.rootKey ∧ last.followed = [] ∧ last.value = t := by
  obtain ⟨step, rest, i, way, position, values⟩ := movable.parts_root
  -- The new entry is the last of the moved root, and one part before it has the reference in its place.
  obtain ⟨front, lasts, whole, frontValues, lastValues⟩ :=
    List.map_eq_append_iff.1 ((b.movedOut place name).start.map_value_parts.trans values)
  obtain ⟨last, isLast, value⟩ := List.map_eq_singleton_iff.1 lastValues
  subst isLast
  have length : front.length = b.start.parts.length := by
    rw [← List.length_map, frontValues, List.length_modify, Spot.length_parts]
    rfl
  have member {part' : Spot (b.movedOut place name)} (inside : part' ∈ front ++ [last]) :
      part'.document = b.rootKey ∧ part'.followed = [] := by
    rw [← whole] at inside
    exact ⟨(Spot.of_mem_parts inside).1, (Spot.of_mem_parts inside).2.1⟩
  obtain ⟨document, followed⟩ := member (List.mem_append_right _ List.mem_cons_self)
  refine ⟨front, last, whole, length, ?_, document, followed, value⟩
  intro j part part' here here'
  have inside := List.mem_of_getElem? here
  obtain ⟨document, followed, _⟩ := Spot.of_mem_parts inside
  obtain ⟨document', followed'⟩ := member (List.mem_append_left _ (List.mem_of_getElem? here'))
  have free : b.entryKey name ∉ part'.followed := by
    rw [followed']
    exact List.not_mem_nil
  have partValue : (b.root.parts.modify i fun p =>
      p.replaceAt rest (Reference.value (Reference.toEntry name)))[j]? = some part'.value := by
    rw [← frontValues, List.getElem?_map, here']
    rfl
  have rootWritten : b.start.IsWritten := ⟨b.root, b.holds_root, List.Subset.refl _⟩
  have written := rootWritten.part inside
  refine { document := document'.trans document.symm, followed := ?_, written, stands := ?_ }
  · intro key _
    rw [followed', followed]
    rfl
  · exact .of_modify free document (List.nil_append _ |>.trans way.symm) rfl position
      (Spot.value_of_parts_getElem here) partValue

private theorem Movable.ne_ref (movable : b.Movable place name t) : "$ref" ≠ name := by
  intro same
  have letters := movable.word.letters
  rw [← same] at letters
  exact absurd (letters '$' (by decide)) (by decide)

private theorem Movable.lead_start (movable : b.Movable place name t) :
    b.start.lead = .inward ∧ (b.movedOut place name).start.lead = .inward := by
  obtain ⟨step, rest, way⟩ := List.exists_cons_of_ne_nil movable.below
  have noReference : b.root.reference? = none := movable.clear [] step rest b.root way rfl
  refine ⟨Spot.lead_of_none noReference, Spot.lead_of_none ?_⟩
  change (b.movedOut place name).root.reference? = none
  rw [movable.root_eq, Value.reference_withEntry movable.ne_ref]
  have found := movable.found
  rw [way] at found ⊢
  exact Value.reference_replaceAt found (Reference.value_ne_text _) noReference

private theorem Movable.withParts_root (movable : b.Movable place name t) {outs : List Value}
    (same : outs.length = b.root.parts.length) (entry : Value) :
    (b.movedOut place name).root.withParts (outs ++ [entry]) =
    (b.root.withParts outs).withEntry name entry := by
  obtain ⟨step, rest, way⟩ := List.exists_cons_of_ne_nil movable.below
  have found := movable.found
  rw [way] at found
  obtain ⟨i, _, position, _⟩ := Value.exists_of_at_cons found
  have length : outs.length = (b.root.replaceAt (step :: rest)
      (Reference.value (Reference.toEntry name))).parts.length := by
    rw [Value.parts_replaceAt position, List.length_modify, same]
  rw [movable.root_eq, way, Value.withParts_withEntry (Value.isMap_replaceAt movable.isMap) length,
    Value.replaceAt_cons position, Value.withParts_withParts (List.length_modify _ _ _)]

private theorem Movable.exists_entry (movable : b.Movable place name t) (trees : b.Trees)
    (unmarked : Unmarked b.rootKey) {out : Value} (done : b.start.resolve = .ok out)
    {last : Spot (b.movedOut place name)} (document : last.document = b.rootKey)
    (followed : last.followed = []) (value : last.value = t) :
    ∃ entry, last.resolve = .ok entry := by
  obtain ⟨inner, innerDocument, innerFollowed, innerValue, entry, innerDone⟩ :=
    Spot.exists_at movable.found movable.clear done
  have written : inner.IsWritten :=
    ⟨b.root, innerDocument ▸ b.holds_root, innerValue ▸ Value.references_at movable.found⟩
  have counterpart : Counterpart b place name t inner last := by
    refine { document := document.trans innerDocument.symm, followed := ?_, written, stands := ?_ }
    · intro key _
      rw [followed, innerFollowed]
      rfl
    · refine .same (value.trans innerValue.symm) (.inr ?_)
      rw [followed]
      exact List.not_mem_nil
  exact ⟨entry, (counterpart.agrees movable trees unmarked entry).1 innerDone⟩

/-- Where the root has a value, so has the moved root, with one more entry; and the other way round. -/
theorem Movable.resolve_start (movable : b.Movable place name t) (trees : b.Trees)
    (unmarked : Unmarked b.rootKey) :
    (∀ out, b.start.resolve = .ok out → ∃ entry,
    (b.movedOut place name).start.resolve = .ok (out.withEntry name entry)) ∧
    (∀ out', (b.movedOut place name).start.resolve = .ok out' →
      ∃ out entry, b.start.resolve = .ok out ∧ out' = out.withEntry name entry) := by
  obtain ⟨front, last, parts', length, counterparts, document, followed, value⟩ :=
    movable.parts_start
  have same := map_resolve_iff length fun i part part' here here' =>
    (counterparts i part part' here here').agrees movable trees unmarked
  obtain ⟨lead, lead'⟩ := movable.lead_start
  constructor
  · intro out done
    obtain ⟨outs, resolved, isOut⟩ := (Spot.resolve_inward_ok_iff lead).1 done
    obtain ⟨entry, lastDone⟩ := movable.exists_entry trees unmarked done document followed value
    refine ⟨entry, (Spot.resolve_inward_ok_iff lead').2 ⟨outs ++ [entry], ?_, ?_⟩⟩
    · rw [parts', List.map_append, List.map_append, (same outs).1 resolved, List.map_singleton,
        lastDone]
      rfl
    · rw [← isOut]
      exact movable.withParts_root (Spot.length_of_resolved resolved) entry
  -- The last value of the moved root is that of the new entry, and without it the others are the root's.
  · intro out' done
    obtain ⟨outs', resolved', isOut'⟩ := (Spot.resolve_inward_ok_iff lead').1 done
    rw [parts', List.map_append] at resolved'
    obtain ⟨outs, entries, whole, resolved, resolvedLast⟩ := List.append_eq_map_iff.1 resolved'
    have oneEntry : entries.length = 1 := by
      rw [← List.length_map, resolvedLast]
      rfl
    obtain ⟨entry, isEntry⟩ := List.length_eq_one_iff.1 oneEntry
    subst whole isEntry
    have resolvedRoot := (same outs).2 resolved.symm
    refine ⟨b.root.withParts outs, entry,
      (Spot.resolve_inward_ok_iff lead).2 ⟨outs, resolvedRoot, rfl⟩, ?_⟩
    rw [← isOut']
    exact movable.withParts_root (Spot.length_of_resolved resolvedRoot) entry

/--
Bundling the moved document gives the same with one more entry, if there is room for all steps in
both or in neither.
-/
theorem Movable.run (movable : b.Movable place name t) (trees : b.Trees)
    (unmarked : Unmarked b.rootKey) (sameRoom : b.Fits ↔ (b.movedOut place name).Fits) :
    (∀ out, b.run = .ok out → ∃ entry,
    (b.movedOut place name).run = .ok (out.withEntry name entry)) ∧
    (∀ out', (b.movedOut place name).run = .ok out' →
      ∃ out entry, b.run = .ok out ∧ out' = out.withEntry name entry) := by
  by_cases fits : b.Fits
  · obtain ⟨there, back⟩ := movable.resolve_start trees unmarked
    rw [run_eq_resolve trees fits, run_eq_resolve (movable.trees trees) (sameRoom.1 fits)]
    exact ⟨there, back⟩
  · constructor
    · intro out done
      exact absurd (Fits.of_run trees done) fits
    · intro out' done
      exact absurd (sameRoom.2 (Fits.of_run (movable.trees trees) done)) fits

end Bundle

end QueryHooks
