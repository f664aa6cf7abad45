import QueryHooks.Proofs.Value.Parts

/-!
Trees: values that contain themselves nowhere. A part of a tree is a value of its own as it stands,
so a pointer into a tree leads to the parts that lie in it.
-/

namespace QueryHooks

/-- A mapping that is a reference and nothing else. -/
def Reference.value (reference : String) : Value := .record [("$ref", .text reference)]

theorem Reference.value_ne_text (reference s : String) : value reference ≠ .text s := by
  rw [value, Value.record]
  intro same
  cases same

namespace Value

/-- A value is a tree when no part of it stands for a collection around it. -/
def IsTree (v : Value) : Prop := v.isEndless = false

instance (v : Value) : Decidable v.IsTree := inferInstanceAs (Decidable (v.isEndless = false))

private theorem isEndless_of_mem {items : List Value} {v : Value} (member : v ∈ items)
    (endless : v.isEndless = true) :
    anyIsEndless items = true := by
  induction items with
  | nil => cases member
  | cons head rest ih =>
      rw [anyIsEndless, Bool.or_eq_true]
      rcases List.mem_cons.1 member with same | later
      · exact .inl (same ▸ endless)
      · exact .inr (ih later)

private theorem isEndless_of_mem_entries {entries : List (Value × Value)} {e : Value × Value}
    (member : e ∈ entries) (endless : e.2.isEndless = true) : anyEntryIsEndless entries = true := by
  induction entries with
  | nil => cases member
  | cons head rest ih =>
      obtain ⟨k, v⟩ := head
      rw [anyEntryIsEndless, Bool.or_eq_true]
      rcases List.mem_cons.1 member with same | later
      · subst same
        exact .inl endless
      · exact .inr (ih later)

theorem IsTree.part {v part : Value} (tree : v.IsTree) (inside : part ∈ v.parts) : part.IsTree := by
  refine Bool.eq_false_iff.2 fun endless => ?_
  cases v with
  | list items =>
      have found : anyIsEndless items = true := isEndless_of_mem inside endless
      rw [IsTree, isEndless, found] at tree
      cases tree
  | map entries =>
      obtain ⟨e, member, same⟩ := List.mem_map.1 inside
      subst same
      rw [IsTree, isEndless, isEndless_of_mem_entries member endless] at tree
      cases tree
  | _ => simp [parts] at inside

private theorem anyIsEndless_of_trees {items : List Value} (trees : ∀ v ∈ items, v.IsTree) :
    anyIsEndless items = false := by
  induction items with
  | nil => rfl
  | cons head rest ih =>
      have first : head.isEndless = false := trees head List.mem_cons_self
      rw [anyIsEndless, first, ih fun v later => trees v (List.mem_cons_of_mem _ later)]
      rfl

theorem anyEntryIsEndless_of_trees {entries : List (Value × Value)}
    (trees : ∀ e ∈ entries, e.2.IsTree) :
    anyEntryIsEndless entries = false := by
  induction entries with
  | nil => rfl
  | cons head rest ih =>
      obtain ⟨k, v⟩ := head
      have first : v.isEndless = false := trees (k, v) List.mem_cons_self
      rw [anyEntryIsEndless, first, ih fun e later => trees e (List.mem_cons_of_mem _ later)]
      rfl

theorem IsTree.withParts {v : Value} {outs : List Value} (tree : v.IsTree)
    (trees : ∀ out ∈ outs, out.IsTree) :
    (v.withParts outs).IsTree := by
  cases v with
  | list items => exact anyIsEndless_of_trees trees
  | map entries =>
      apply anyEntryIsEndless_of_trees
      intro e member
      exact trees e.2 (List.of_mem_zip member).2
  | _ => exact tree

mutual

private theorem reachesOut_of_isEndless (depth : Nat) (v : Value) (tree : v.isEndless = false) :
    v.reachesOut depth = false := by
  cases v with
  | list items => exact anyReachesOut_of_anyIsEndless (depth + 1) items tree
  | map entries => exact anyEntryReachesOut_of_anyEntryIsEndless (depth + 1) entries tree
  | pair first second =>
      rw [isEndless, Bool.or_eq_false_iff] at tree
      rw [reachesOut, reachesOut_of_isEndless depth first tree.1,
        reachesOut_of_isEndless depth second tree.2]
      rfl
  | again kind up => cases tree
  | _ => rfl

private theorem anyReachesOut_of_anyIsEndless (depth : Nat) (items : List Value)
    (trees : anyIsEndless items = false) : anyReachesOut depth items = false := by
  cases items with
  | nil => rfl
  | cons v rest =>
      rw [anyIsEndless, Bool.or_eq_false_iff] at trees
      rw [anyReachesOut, reachesOut_of_isEndless depth v trees.1,
        anyReachesOut_of_anyIsEndless depth rest trees.2]
      rfl

private theorem anyEntryReachesOut_of_anyEntryIsEndless (depth : Nat)
    (entries : List (Value × Value)) (trees : anyEntryIsEndless entries = false) :
    anyEntryReachesOut depth entries = false := by
  match entries with
  | [] => rfl
  | (k, v) :: rest =>
      rw [anyEntryIsEndless, Bool.or_eq_false_iff] at trees
      rw [anyEntryReachesOut, reachesOut_of_isEndless depth v trees.1,
        anyEntryReachesOut_of_anyEntryIsEndless depth rest trees.2]
      rfl

end

theorem IsTree.reachesOut {v : Value} (tree : v.IsTree) : v.reachesOut 0 = false :=
  reachesOut_of_isEndless 0 v tree

theorem IsTree.partOf {part : Value} (tree : part.IsTree) (container : Value) :
    container.partOf part = part := by
  rw [Value.partOf, tree.reachesOut]
  rfl

theorem IsTree.closedIn {v : Value} (tree : v.IsTree) (around : List Value) :
    closedIn around v = v := by
  rw [Value.closedIn, tree.reachesOut]
  rfl

theorem sameKey_text_iff (k : Value) (key : String) : sameKey k (.text key) = true ↔
    k = .text key := by
  have noNumber : asInt? (.text key) = none := rfl
  unfold sameKey
  rw [noNumber]
  cases k with
  | text s =>
      change (s == key) = true ↔ _
      rw [beq_iff_eq, text.injEq]
  | _ => simp

theorem lookup_eq_child (key : String) (entries : List (Value × Value)) :
    lookup key entries = (Value.map entries).child? (.key (.text key)) := by
  change _ = ((entries.map Prod.fst).findIdx? fun own => sameKey own (.text key)).bind
    fun i => (entries.map Prod.snd)[i]?
  fun_induction lookup key entries with
  | case1 => rfl
  | case2 k v rest same =>
      have found : sameKey (.text k) (.text key) = true :=
        (sameKey_text_iff _ _).2 (congrArg _ (eq_of_beq same))
      rw [List.map_cons, List.findIdx?_cons, found]
      rfl
  | case3 k v rest other ih =>
      have missed : sameKey (.text k) (.text key) = false := by
        refine Bool.eq_false_iff.2 fun same => other ?_
        exact beq_iff_eq.2 (text.inj ((sameKey_text_iff _ _).1 same))
      rw [List.map_cons, List.findIdx?_cons, missed, ih]
      cases (rest.map Prod.fst).findIdx? fun own => sameKey own (.text key) <;> rfl
  | case4 head rest noText ih =>
      obtain ⟨k, v⟩ := head
      have missed : sameKey k (.text key) = false := by
        refine Bool.eq_false_iff.2 fun same => ?_
        exact noText key v (by rw [(sameKey_text_iff k key).1 same])
      rw [List.map_cons, List.findIdx?_cons, missed, ih]
      cases (rest.map Prod.fst).findIdx? fun own => sameKey own (.text key) <;> rfl

theorem get_eq_child (v : Value) (key : String) : v.get? key = v.child? (.key (.text key)) := by
  cases v with
  | map entries => exact lookup_eq_child key entries
  | _ => rfl

theorem part_eq_get {v : Value} (tree : v.IsTree) (key : String) : v.part? key = v.get? key := by
  rw [part?]
  cases found : v.get? key with
  | none => rfl
  | some part =>
      have inside : part ∈ v.parts := mem_parts_of_child ((get_eq_child v key).symm.trans found)
      rw [Option.map_some, (tree.part inside).partOf]

def reference? : Value → Option String
  | .map entries => Reference.of? entries
  | _ => none

theorem reference_eq_some_iff {v : Value} {reference : String} :
    v.reference? = some reference ↔ v.child? (.key (.text "$ref")) = some (.text reference) := by
  cases v with
  | map entries =>
      rw [reference?, Reference.of?, ← lookup_eq_child]
      cases lookup "$ref" entries with
      | none => simp
      | some v => cases v <;> simp
  | _ =>
      constructor
      · intro impossible
        cases impossible
      · intro impossible
        cases impossible

/-- Whether no collection on the way to a place is a reference. -/
def isClear (v : Value) : Location → Bool
  | [] => true
  | step :: rest =>
      v.reference?.isNone && match v.child? step with
        | some child => child.isClear rest
        | none => true

theorem reference_of_isClear {v part : Value} {place before rest : Location} {step : Step}
    (clear : v.isClear place = true) (way : place = before ++ step :: rest)
    (found : v.at? before = some part) :
    part.reference? = none := by
  subst way
  induction before generalizing v with
  | nil =>
      cases found
      rw [List.nil_append, isClear, Bool.and_eq_true] at clear
      exact Option.isNone_iff_eq_none.1 clear.1
  | cons first before ih =>
      obtain ⟨child, here, below⟩ := Option.bind_eq_some_iff.1 found
      rw [List.cons_append, isClear, here, Bool.and_eq_true] at clear
      exact ih below clear.2

theorem tree_of_at {v part : Value} {location : Location} (tree : v.IsTree)
    (found : v.at? location = some part) :
    part.IsTree ∧ part.depth ≤ v.depth := by
  induction location generalizing v with
  | nil =>
      injection found with same
      subst same
      exact ⟨tree, Nat.le_refl _⟩
  | cons step rest ih =>
      obtain ⟨child, here, below⟩ := Option.bind_eq_some_iff.1 found
      have inside := mem_parts_of_child here
      have inner := ih (tree.part inside) below
      exact ⟨inner.1, Nat.le_trans inner.2 (Nat.le_of_lt (depth_part inside))⟩

end Value

namespace Pointer

open Value (Step Location)

/-- The place of an index in a list of so many items; negative indexes count from the end. -/
def place? (length : Nat) (index : Int) : Option Nat :=
  if 0 ≤ index then some index.toNat
  else if -index ≤ Int.ofNat length then some (length - (-index).toNat)
  else none

def stepOf? (v : Value) (segment : String) : Option Step :=
  match v with
  | .map _ => some (.key (.text segment))
  | .list items => ((Text.Integer.read? 10 segment.toList).bind (place? items.length)).map .index
  | _ => none

theorem element_eq (items : List Value) (index : Int) :
    element? items index = (place? items.length index).bind fun i => items[i]? := by
  unfold element? place?
  split
  · rfl
  · split <;> rfl

theorem step_ok_iff {v part : Value} {segment : String} (tree : v.IsTree) :
    step v segment = .ok part ↔ (stepOf? v segment).bind v.child? = some part := by
  cases v with
  | map entries =>
      have found : (stepOf? (.map entries) segment).bind (Value.map entries).child? =
          Value.lookup segment entries := (Value.lookup_eq_child segment entries).symm
      rw [found, step]
      cases here : Value.lookup segment entries with
      | none => simp
      | some part' =>
          have inside : part' ∈ (Value.map entries).parts :=
            Value.mem_parts_of_child ((Value.lookup_eq_child segment entries).symm.trans here)
          simp [(tree.part inside).partOf]
  | list items =>
      have found : (stepOf? (.list items) segment).bind (Value.list items).child? =
          (Text.Integer.read? 10 segment.toList).bind (element? items) := by
        cases read : Text.Integer.read? 10 segment.toList with
        | none => simp [stepOf?, read]
        | some index =>
            rw [Option.bind_some, element_eq, stepOf?, read, Option.bind_some]
            cases place? items.length index <;> rfl
      rw [found, step]
      cases here : (Text.Integer.read? 10 segment.toList).bind (element? items) with
      | none => simp
      | some part' =>
          obtain ⟨index, _, inside⟩ := Option.bind_eq_some_iff.1 here
          have tree' : part'.IsTree := tree.part (mem_of_element? inside)
          simp [tree'.partOf]
  | _ => simp [step, stepOf?]

def location? (v : Value) : List String → Option Location
  | [] => some []
  | segment :: rest =>
      (stepOf? v segment).bind fun step =>
        (v.child? step).bind fun child => (location? child rest).map (step :: ·)

section

variable {v part : Value} {segment : String} {rest : List String} {way : Step}

theorem walk_cons_of_child (tree : v.IsTree) (taken : stepOf? v segment = some way)
    (child : v.child? way = some part) :
    walk v (segment :: rest) = walk part rest := by
  have here : step v segment = .ok part := by
    rw [step_ok_iff tree, taken, Option.bind_some, child]
  rw [walk, here]

theorem walk_cons_of_none (tree : v.IsTree) (rest : List String)
    (none : (stepOf? v segment).bind v.child? = none) :
    ∃ problem, walk v (segment :: rest) = .error problem := by
  cases here : step v segment with
  | ok next =>
      rw [step_ok_iff tree, none] at here
      cases here
  | error problem => exact ⟨problem, by rw [walk, here]⟩

theorem location_cons (taken : stepOf? v segment = some way) (child : v.child? way = some part) :
    location? v (segment :: rest) = (location? part rest).map (way :: ·) := by
  rw [location?, taken, Option.bind_some, child, Option.bind_some]

end

/-- In a tree a pointer leads to what lies at its place. -/
theorem walk_ok_iff {v part : Value} {segments : List String} (tree : v.IsTree) :
    walk v segments = .ok part ↔ ∃ location, location? v segments = some location ∧
    v.at? location = some part := by
  induction segments generalizing v with
  | nil => simp [walk, location?, Value.at?]
  | cons segment rest ih =>
      -- The first segment takes a step to a child or none at all, and the rest is about the child.
      cases child : (stepOf? v segment).bind v.child? with
      | none =>
          obtain ⟨problem, stuck⟩ := walk_cons_of_none tree rest child
          rw [stuck]
          constructor
          · intro impossible
            cases impossible
          · rintro ⟨location, leads, _⟩
            obtain ⟨way, taken, leads⟩ := Option.bind_eq_some_iff.1 leads
            obtain ⟨next, child', _⟩ := Option.bind_eq_some_iff.1 leads
            rw [taken, Option.bind_some, child'] at child
            cases child
      | some next =>
          obtain ⟨way, taken, child⟩ := Option.bind_eq_some_iff.1 child
          have below := ih (tree.part (Value.mem_parts_of_child child))
          rw [walk_cons_of_child tree taken child, location_cons taken child, below]
          constructor
          · rintro ⟨location, placed, found⟩
            refine ⟨way :: location, by rw [placed]; rfl, ?_⟩
            rw [Value.at?, child]
            exact found
          · rintro ⟨_, leads, found⟩
            obtain ⟨location, placed, same⟩ := Option.map_eq_some_iff.1 leads
            subst same
            rw [Value.at?, child] at found
            exact ⟨location, placed, found⟩

theorem tree_of_follow {document part : Value} {pointer : String} (tree : document.IsTree)
    (found : follow document pointer = .ok part) : part.IsTree ∧ part.depth ≤ document.depth := by
  unfold follow at found
  split at found
  · next segments _ =>
      obtain ⟨location, _, here⟩ := (walk_ok_iff tree).1 found
      exact Value.tree_of_at tree here
  · cases found

end Pointer

end QueryHooks
