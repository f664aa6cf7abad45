import QueryHooks.Proofs.Value.Tree

/-!
Putting another value in a place of a tree. A pointer that does not lead to the place or below leads
to what it led to before, or to a collection around the place, where the other value lies now.
-/

namespace QueryHooks.Value

/-- A value with another one in a place; without the place it stays. -/
def replaceAt (v : Value) (place : Location) (w : Value) : Value :=
  match place with
  | [] => w
  | step :: rest =>
      match v.position? step with
      | none => v
      | some i => v.withParts (v.parts.modify i fun part => part.replaceAt rest w)

variable {v w t part : Value} {step : Step} {place : Location} {i : Nat}

theorem replaceAt_cons (here : v.position? step = some i) :
    v.replaceAt (step :: place) w =
    v.withParts (v.parts.modify i fun part => part.replaceAt place w) := by
  rw [replaceAt, here]

theorem parts_replaceAt (here : v.position? step = some i) :
    (v.replaceAt (step :: place) w).parts = v.parts.modify i fun part => part.replaceAt place w :=
    by
  rw [replaceAt_cons here]
  exact parts_withParts (List.length_modify _ _ _)

theorem position_replaceAt (here : v.position? step = some i) (other : Step) :
    (v.replaceAt (step :: place) w).position? other = v.position? other := by
  rw [replaceAt_cons here]
  exact position_withParts (List.length_modify _ _ _) other

theorem child_replaceAt (here : v.position? step = some i) (other : Step) :
    (v.replaceAt (step :: place) w).child? other =
      (v.position? other).bind fun j => (v.parts.modify i fun part => part.replaceAt place w)[j]? :=
      by
  rw [child?, position_replaceAt here, parts_replaceAt here]

theorem child_replaceAt_eq_none {other : Step} (missing : v.child? other = none) :
    (v.replaceAt (step :: place) w).child? other = none := by
  cases here : v.position? step with
  | none =>
      rw [replaceAt, here]
      exact missing
  | some i =>
      rw [child_replaceAt here]
      rw [child?] at missing
      cases position : v.position? other with
      | none => rfl
      | some j =>
          rw [position, Option.bind_some] at missing
          rw [Option.bind_some, List.getElem?_modify, missing]
          rfl

theorem child_replaceAt_of_ne {other : Step} (here : v.position? step = some i)
    (away : v.position? other ≠ some i) :
    (v.replaceAt (step :: place) w).child? other = v.child? other := by
  rw [child_replaceAt here, child?]
  cases position : v.position? other with
  | none => rfl
  | some j =>
      rw [position] at away
      have apart : i ≠ j := fun same => away (congrArg some same.symm)
      rw [Option.bind_some, Option.bind_some, List.getElem?_modify_ne _ _ apart]

theorem exists_of_at_cons (found : v.at? (step :: place) = some t) :
    ∃ i part, v.position? step = some i ∧ v.parts[i]? = some part ∧ part.at? place = some t := by
  obtain ⟨part, child, below⟩ := Option.bind_eq_some_iff.1 found
  obtain ⟨i, here, inside⟩ := Option.bind_eq_some_iff.1 child
  exact ⟨i, part, here, inside, below⟩

theorem at_append (v : Value) (place rest : Location) :
    v.at? (place ++ rest) = (v.at? place).bind fun part => part.at? rest := by
  induction place generalizing v with
  | nil => rfl
  | cons step place ih =>
      rw [List.cons_append, at?, at?]
      cases v.child? step with
      | none => rfl
      | some child => exact ih child

theorem references_at (found : v.at? place = some t) : t.references ⊆ v.references := by
  induction place generalizing v with
  | nil =>
      cases found
      exact List.Subset.refl _
  | cons step place ih =>
      obtain ⟨_, part, _, inside, below⟩ := exists_of_at_cons found
      exact List.Subset.trans (ih below) (references_part (List.mem_of_getElem? inside))

theorem IsTree.replaceAt (tree : v.IsTree) (other : w.IsTree) (place : Location) :
    (v.replaceAt place w).IsTree := by
  induction place generalizing v with
  | nil => exact other
  | cons step place ih =>
      rw [Value.replaceAt]
      split
      · exact tree
      · next i here =>
          apply tree.withParts
          intro out inside
          obtain ⟨j, placed⟩ := List.mem_iff_getElem?.1 inside
          rw [List.getElem?_modify] at placed
          obtain ⟨part, own, same⟩ := Option.map_eq_some_iff.1 placed
          have partTree : part.IsTree := tree.part (List.mem_of_getElem? own)
          subst same
          split
          · exact ih partTree
          · exact partTree

theorem replaceAt_ne_text (found : v.at? place = some t) (noText : ∀ s, w ≠ .text s) (s : String) :
    v.replaceAt place w ≠ .text s := by
  cases place with
  | nil => exact noText s
  | cons step place =>
      obtain ⟨i, _, here, _⟩ := exists_of_at_cons found
      rw [replaceAt_cons here]
      cases v with
      | text s => cases here
      | _ => exact fun same => by cases same

theorem isMap_replaceAt (isMap : v.isMap = true) : (v.replaceAt (step :: place) w).isMap = true :=
    by
  cases v with
  | map entries =>
      rw [replaceAt]
      cases (Value.map entries).position? step <;> rfl
  | _ => cases isMap

/-- What is no reference does not become one when something that is no text is put in a place of it. -/
theorem reference_replaceAt (found : v.at? (step :: place) = some t) (noText : ∀ s, w ≠ .text s)
    (noReference : v.reference? = none) : (v.replaceAt (step :: place) w).reference? = none := by
  obtain ⟨i, part, here, inside, below⟩ := exists_of_at_cons found
  cases isReference : (v.replaceAt (step :: place) w).reference? with
  | none => rfl
  | some reference =>
      have child := reference_eq_some_iff.1 isReference
      rw [child_replaceAt here] at child
      obtain ⟨j, position, placed⟩ := Option.bind_eq_some_iff.1 child
      by_cases same : i = j
      · subst same
        rw [List.getElem?_modify_eq, inside] at placed
        exact absurd (Option.some.inj placed) (replaceAt_ne_text below noText reference)
      · rw [List.getElem?_modify_ne _ _ same] at placed
        have own : v.reference? = some reference := by
          rw [reference_eq_some_iff, child?, position]
          exact placed
        rw [noReference] at own
        cases own

/-! Entries put at the end of a mapping -/

def withEntry (v : Value) (name : String) (w : Value) : Value :=
  match v with
  | .map entries => .map (entries ++ [(.text name, w)])
  | v => v

variable {name key : String} {entries : List (Value × Value)}

theorem lookup_append_of_ne (other : key ≠ name) :
    lookup key (entries ++ [(.text name, w)]) = lookup key entries := by
  fun_induction lookup key entries with
  | case1 => simp [lookup, Ne.symm other]
  | case2 k v rest same => simp [lookup, same]
  | case3 k v rest different ih => simpa [lookup, different] using ih
  | case4 head rest noText ih =>
      obtain ⟨k, v⟩ := head
      rw [List.cons_append, lookup, ih]
      intro s t same
      exact noText s v (by rw [(Prod.mk.inj same).1])

theorem lookup_append_self (fresh : lookup name entries = none) :
    lookup name (entries ++ [(.text name, w)]) = some w := by
  fun_induction lookup name entries with
  | case1 => simp [lookup]
  | case2 k v rest same => cases fresh
  | case3 k v rest different ih => simpa [lookup, different] using ih fresh
  | case4 head rest noText ih =>
      obtain ⟨k, v⟩ := head
      rw [List.cons_append, lookup, ih fresh]
      intro s t same
      exact noText s v (by rw [(Prod.mk.inj same).1])

theorem get_withEntry_of_ne (other : key ≠ name) : (v.withEntry name w).get? key = v.get? key := by
  cases v with
  | map entries => exact lookup_append_of_ne other
  | _ => rfl

theorem reference_withEntry (other : "$ref" ≠ name) :
    (v.withEntry name w).reference? = v.reference? := by
  cases v with
  | map entries =>
      have found : lookup "$ref" (entries ++ [(.text name, w)]) = lookup "$ref" entries :=
        lookup_append_of_ne other
      rw [withEntry, reference?, reference?, Reference.of?, Reference.of?, found]
  | _ => rfl

theorem parts_withEntry (isMap : v.isMap = true) : (v.withEntry name w).parts = v.parts ++ [w] := by
  cases v with
  | map entries => exact List.map_append
  | _ => cases isMap

theorem withParts_withEntry (isMap : v.isMap = true) {outs : List Value}
    (same : outs.length = v.parts.length) (out : Value) :
    (v.withEntry name w).withParts (outs ++ [out]) = (v.withParts outs).withEntry name out := by
  cases v with
  | map entries =>
      have bound : (entries.map Prod.fst).length = outs.length := by
        rw [same, parts, List.length_map, List.length_map]
      simp only [withEntry, withParts, List.map_append, List.map_cons, List.map_nil]
      rw [List.zip_append bound]
      rfl
  | _ => cases isMap

theorem IsTree.withEntry (tree : v.IsTree) (other : w.IsTree) (name : String) :
    (v.withEntry name w).IsTree := by
  cases v with
  | map entries =>
      apply anyEntryIsEndless_of_trees
      intro e member
      rcases List.mem_append.1 member with own | last
      · exact tree.part (List.mem_map_of_mem own)
      · rw [List.mem_singleton.1 last]
        exact other
  | _ => exact tree

theorem sameKey_of_text (key : String) (k : Value) (same : sameKey (.text key) k = true) :
    k = .text key := by
  have noNumber : asInt? (.text key) = none := rfl
  unfold sameKey at same
  rw [noNumber] at same
  cases k with
  | text s =>
      have equal : (key == s) = true := same
      rw [beq_iff_eq.1 equal]
  | _ => cases same

end QueryHooks.Value

namespace QueryHooks.Pointer

open Value (Step Location)

variable {v w t part : Value} {segment : String} {rest names : List String} {way : Step}
    {place : Location}

theorem exists_of_location_cons {location : Location}
    (leads : location? v (segment :: rest) = some location) :
    ∃ step ahead, stepOf? v segment = some step ∧ location = step :: ahead := by
  obtain ⟨step, taken, leads⟩ := Option.bind_eq_some_iff.1 leads
  obtain ⟨child, _, leads⟩ := Option.bind_eq_some_iff.1 leads
  obtain ⟨ahead, _, same⟩ := Option.map_eq_some_iff.1 leads
  exact ⟨step, ahead, taken, same.symm⟩

theorem stepOf_withParts {outs : List Value} (same : outs.length = v.parts.length)
    (segment : String) :
    stepOf? (v.withParts outs) segment = stepOf? v segment := by
  cases v with
  | list items =>
      have length : outs.length = items.length := same
      simp only [Value.withParts, stepOf?, length]
  | _ => rfl

/-- The step that a segment describes is the only one to its position. -/
theorem step_unique {i : Nat} {step : Step} (taken : stepOf? v segment = some way)
    (here : v.position? way = some i) (also : v.position? step = some i) : way = step := by
  cases v with
  | list items =>
      obtain ⟨j, _, same⟩ := Option.map_eq_some_iff.1 taken
      subst same
      cases here
      cases step with
      | index j => cases also; rfl
      | key k => cases also
  | map entries =>
      injection taken with same
      subst same
      cases step with
      | index j => cases also
      | key k =>
          obtain ⟨inside, own, _⟩ := List.findIdx?_eq_some_iff_getElem.1 here
          obtain ⟨_, own', _⟩ := List.findIdx?_eq_some_iff_getElem.1 also
          rw [(Value.sameKey_text_iff _ _).1 own] at own'
          rw [Value.sameKey_of_text _ _ own']
  | _ => cases taken

/--
What the names of a pointer lead to before and after another value is put in a place: nothing both
times, or a collection around the place, or something apart from it.
-/
inductive Shift (v : Value) (place : Location) (w : Value) (names : List String) : Prop
  | neither {problem problem' : PointerProblem} (before : walk v names = .error problem)
      (after : walk (v.replaceAt place w) names = .error problem')
  | around {location rest : Location} {part : Value} (leads : location? v names = some location)
      (on : location ++ rest = place) (before : walk v names = .ok part)
      (after : walk (v.replaceAt place w) names = .ok (part.replaceAt rest w))
  | apart {location : Location} {part : Value} (leads : location? v names = some location)
      (off : ¬ location <+: place) (before : walk v names = .ok part)
      (after : walk (v.replaceAt place w) names = .ok part)

/-- Whether no initial part of the names of a pointer leads to the place. -/
def Avoids (v : Value) (place : Location) (names : List String) : Prop :=
  ∀ before after, names = before ++ after → location? v before ≠ some place

theorem stepOf_replaceAt {step : Step} {i : Nat} (here : v.position? step = some i)
    (segment : String) :
    stepOf? (v.replaceAt (step :: place) w) segment = stepOf? v segment := by
  rw [Value.replaceAt_cons here, stepOf_withParts (List.length_modify _ _ _)]

theorem Avoids.behind (avoids : Avoids v (way :: place) (segment :: rest))
    (taken : stepOf? v segment = some way) (child : v.child? way = some part) :
    Avoids part place rest := by
  intro before after whole leads
  apply avoids (segment :: before) after (congrArg (segment :: ·) whole)
  rw [location_cons taken child, leads]
  rfl

namespace Shift

variable {step : Step} {i : Nat}

private theorem nowhere (tree : v.IsTree) (other : w.IsTree) (here : v.position? step = some i)
    (missing : (stepOf? v segment).bind v.child? = none) :
    Shift v (step :: place) w (segment :: rest) := by
  have missing' : (stepOf? (v.replaceAt (step :: place) w) segment).bind
      (v.replaceAt (step :: place) w).child? = none := by
    rw [stepOf_replaceAt here]
    cases taken : stepOf? v segment with
    | none => rfl
    | some way =>
        rw [taken] at missing
        exact Value.child_replaceAt_eq_none missing
  obtain ⟨problem, before⟩ := walk_cons_of_none tree rest missing
  obtain ⟨problem', after⟩ := walk_cons_of_none (tree.replaceAt other (step :: place)) rest missing'
  exact .neither before after

private theorem aside (tree : v.IsTree) (other : w.IsTree) (here : v.position? step = some i)
    (taken : stepOf? v segment = some way) (child : v.child? way = some part)
    (away : v.position? way ≠ some i) :
    Shift v (step :: place) w (segment :: rest) := by
  have sameChild : (v.replaceAt (step :: place) w).child? way = some part :=
    (Value.child_replaceAt_of_ne here away).trans child
  have before : walk v (segment :: rest) = walk part rest := walk_cons_of_child tree taken child
  have after : walk (v.replaceAt (step :: place) w) (segment :: rest) = walk part rest :=
    walk_cons_of_child (tree.replaceAt other (step :: place)) ((stepOf_replaceAt here segment).trans taken) sameChild
  cases walked : walk part rest with
  | error problem => exact .neither (before.trans walked) (after.trans walked)
  | ok found =>
      obtain ⟨location, leads, _⟩ :=
        (walk_ok_iff (tree.part (Value.mem_parts_of_child child))).1 walked
      have located : location? v (segment :: rest) = some (way :: location) := by
        rw [location_cons taken child, leads]
        rfl
      have off : ¬ way :: location <+: step :: place := by
        intro whole
        rw [(List.cons_prefix_cons.1 whole).1] at away
        exact away here
      exact .apart located off (before.trans walked) (after.trans walked)

private theorem cons (tree : v.IsTree) (other : w.IsTree) (taken : stepOf? v segment = some step)
    (here : v.position? step = some i) (inside : v.parts[i]? = some part)
    (below : Shift part place w rest) :
    Shift v (step :: place) w (segment :: rest) := by
  have child : v.child? step = some part := by rw [Value.child?, here, Option.bind_some, inside]
  have child' : (v.replaceAt (step :: place) w).child? step = some (part.replaceAt place w) := by
    rw [Value.child_replaceAt here, here, Option.bind_some, List.getElem?_modify_eq, inside]
    rfl
  have walked : walk v (segment :: rest) = walk part rest := walk_cons_of_child tree taken child
  have walked' : walk (v.replaceAt (step :: place) w) (segment :: rest) = walk
    (part.replaceAt place w) rest :=
    walk_cons_of_child (tree.replaceAt other (step :: place)) ((stepOf_replaceAt here segment).trans taken) child'
  have located : location? v (segment :: rest) = (location? part rest).map (step :: ·) :=
    location_cons taken child
  cases below with
  | neither before after => exact .neither (walked.trans before) (walked'.trans after)
  | @around location ahead part' leads on before after =>
      rw [leads] at located
      exact .around located (congrArg (step :: ·) on) (walked.trans before) (walked'.trans after)
  | @apart location part' leads off before after =>
      rw [leads] at located
      have off' : ¬ step :: location <+: step :: place := fun whole =>
        off (List.cons_prefix_cons.1 whole).2
      exact .apart located off' (walked.trans before) (walked'.trans after)

end Shift

theorem shift_of_avoids (tree : v.IsTree) (other : w.IsTree) (found : v.at? place = some t)
    (avoids : Avoids v place names) : Shift v place w names := by
  induction names generalizing v place with
  | nil =>
      have leads : location? v [] = some [] := rfl
      exact .around leads (List.nil_append place) rfl rfl
  | cons segment rest ih =>
      cases place with
      | nil => exact absurd rfl (avoids [] (segment :: rest) rfl)
      | cons step place =>
          obtain ⟨i, part, here, inside, below⟩ := Value.exists_of_at_cons found
          cases child : (stepOf? v segment).bind v.child? with
          | none => exact .nowhere tree other here child
          | some next =>
              obtain ⟨way, taken, child⟩ := Option.bind_eq_some_iff.1 child
              -- Pointer and place take the same step and go on below it, or they part here and never meet again.
              by_cases same : v.position? way = some i
              · have sameWay : way = step := step_unique taken same here
                subst sameWay
                have child' : v.child? way = some part := by
                  rw [Value.child?, here, Option.bind_some, inside]
                have shift := ih (tree.part (List.mem_of_getElem? inside)) below
                  (avoids.behind taken child')
                exact .cons tree other taken here inside shift
              · exact .aside tree other here taken child same

theorem walk_entry {name : String} (tree : w.IsTree) (isMap : v.isMap = true)
    (fresh : v.get? name = none) :
    walk (v.withEntry name w) [name] = .ok w := by
  cases v with
  | map entries =>
      have found : Value.lookup name (entries ++ [(.text name, w)]) = some w :=
        Value.lookup_append_self fresh
      simp only [Value.withEntry, walk, step, found, tree.partOf]
  | _ => cases isMap

theorem walk_withEntry (tree : v.IsTree) {name : String} (different : segment ≠ name) :
    walk (v.withEntry name w) (segment :: rest) = walk v (segment :: rest) := by
  have same : step (v.withEntry name w) segment = step v segment := by
    cases v with
    | map entries =>
        have found : Value.lookup segment (entries ++ [(.text name, w)]) =
          Value.lookup segment entries :=
          Value.lookup_append_of_ne different
        rw [Value.withEntry, step, step, found]
        cases here : Value.lookup segment entries with
        | none => rfl
        | some part =>
            have partTree : part.IsTree :=
              tree.part (List.mem_map_of_mem (Value.mem_of_lookup here))
            simp only [partTree.partOf]
    | _ => rfl
  rw [walk, walk, same]

end QueryHooks.Pointer
