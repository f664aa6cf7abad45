import QueryHooks.Proofs.Value.Tree

/-!
All values that lie in a value, and what is said of each of them: whether it is, or could be taken for, a
reference.
-/

namespace QueryHooks.Value

mutual

/-- A value and all that lie in its lists and mappings. -/
def all : Value → List Value
  | .list items => .list items :: allOfItems items
  | .map entries => .map entries :: allOfEntries entries
  | v => [v]

def allOfItems : List Value → List Value
  | [] => []
  | v :: rest => all v ++ allOfItems rest

def allOfEntries : List (Value × Value) → List Value
  | [] => []
  | (_, v) :: rest => all v ++ allOfEntries rest

end

theorem mem_allOfItems_iff {w : Value} {items : List Value} :
    w ∈ allOfItems items ↔ ∃ v ∈ items, w ∈ v.all := by
  induction items with
  | nil => simp [allOfItems]
  | cons v rest ih => simp only [allOfItems, List.mem_append, ih, List.mem_cons, exists_eq_or_imp]

theorem mem_allOfEntries_iff {w : Value} {entries : List (Value × Value)} :
    w ∈ allOfEntries entries ↔ ∃ v ∈ entries.map Prod.snd, w ∈ v.all := by
  induction entries with
  | nil => simp [allOfEntries]
  | cons entry rest ih =>
      obtain ⟨k, v⟩ := entry
      simp only [allOfEntries, List.mem_append, ih, List.map_cons, List.mem_cons, exists_eq_or_imp]

/-- What lies in a value is the value itself, or lies in one of its parts. -/
theorem mem_all_iff {v w : Value} : w ∈ v.all ↔ w = v ∨ ∃ part ∈ v.parts, w ∈ part.all := by
  cases v with
  | list items => rw [all, List.mem_cons, mem_allOfItems_iff, parts]
  | map entries => rw [all, List.mem_cons, mem_allOfEntries_iff, parts]
  | _ => simp [all, parts]

theorem mem_all_self (v : Value) : v ∈ v.all := mem_all_iff.2 (.inl rfl)

theorem all_part {v part : Value} (inside : part ∈ v.parts) : part.all ⊆ v.all :=
  fun _ here => mem_all_iff.2 (.inr ⟨part, inside, here⟩)

theorem all_of_at {v part : Value} {location : Location} (found : v.at? location = some part) :
    part.all ⊆ v.all := by
  induction location generalizing v with
  | nil =>
      cases found
      exact List.Subset.refl _
  | cons step rest ih =>
      obtain ⟨child, here, below⟩ := Option.bind_eq_some_iff.1 found
      exact List.Subset.trans (ih below) (all_part (mem_parts_of_child here))

/-- Whether what a value has under `$ref`, if anything, is a text. -/
def refIsText (v : Value) : Bool :=
  match v.get? "$ref" with
  | none => true
  | some (.text _) => true
  | some _ => false

def isPair : Value → Bool
  | .pair .. => true
  | _ => false

/-- A value that is no reference has nothing under `$ref`, if only a text can stand there. -/
theorem get_eq_none {v : Value} (isText : v.refIsText = true) (noReference : v.reference? = none) :
    v.get? "$ref" = none := by
  cases found : v.get? "$ref" with
  | none => rfl
  | some w =>
      rw [refIsText, found] at isText
      cases w with
      | text reference =>
          rw [get_eq_child] at found
          rw [reference_eq_some_iff.2 found] at noReference
          cases noReference
      | _ => cases isText

/-- A key that leads nowhere is in no place. -/
theorem position_eq_none {v k : Value} (nothing : v.child? (.key k) = none) : v.position? (.key k) = none := by
  cases v with
  | map entries =>
      cases here : (Value.map entries).position? (.key k) with
      | none => rfl
      | some i =>
          have inside : i < (entries.map Prod.fst).length := (List.findIdx?_eq_some_iff_getElem.1 here).1
          have same : (Value.map entries).parts.length = (entries.map Prod.fst).length := by
            rw [parts, List.length_map, List.length_map]
          rw [child?, here, Option.bind_some, List.getElem?_eq_none_iff, same] at nothing
          omega
  | _ => rfl

/-- Other parts put nothing under `$ref` in a value that has nothing there. -/
theorem get_withParts {v : Value} {outs : List Value} (nothing : v.get? "$ref" = none)
    (same : outs.length = v.parts.length) : (v.withParts outs).get? "$ref" = none := by
  rw [get_eq_child] at nothing ⊢
  rw [child_withParts same, position_eq_none nothing]
  rfl

theorem reference_eq_none {v : Value} (nothing : v.get? "$ref" = none) : v.reference? = none := by
  cases isReference : v.reference? with
  | none => rfl
  | some reference =>
      rw [get_eq_child, reference_eq_some_iff.1 isReference] at nothing
      cases nothing

theorem withParts_parts (v : Value) : v.withParts v.parts = v := by
  cases v with
  | map entries =>
      have whole : (entries.map Prod.fst).zip (entries.map Prod.snd) = entries := by
        rw [List.zip_map', List.map_id'']
        exact fun _ => rfl
      rw [parts, withParts, whole]
  | _ => rfl

theorem withParts_of_depth {v : Value} (flat : v.depth = 0) (outs : List Value) : v.withParts outs = v := by
  cases v with
  | list items => cases flat
  | map entries => cases flat
  | _ => rfl

theorem depthOfAll_le {items : List Value} {n : Nat} (shallow : ∀ v ∈ items, v.depth ≤ n) :
    depthOfAll items ≤ n := by
  induction items with
  | nil => exact Nat.zero_le n
  | cons v rest ih =>
      rw [depthOfAll]
      exact Nat.max_le.2
        ⟨shallow v List.mem_cons_self, ih fun w later => shallow w (List.mem_cons_of_mem _ later)⟩

theorem depthOfEntries_le {entries : List (Value × Value)} {n : Nat}
    (shallow : ∀ entry ∈ entries, entry.2.depth ≤ n) : depthOfEntries entries ≤ n := by
  induction entries with
  | nil => exact Nat.zero_le n
  | cons entry rest ih =>
      rw [depthOfEntries]
      exact Nat.max_le.2
        ⟨shallow entry List.mem_cons_self, ih fun e later => shallow e (List.mem_cons_of_mem _ later)⟩

/-- The depth of a collection is one more than that of its parts at most. -/
theorem depth_le_succ {v : Value} {n : Nat} (noPair : v.isPair = false)
    (shallow : ∀ part ∈ v.parts, part.depth ≤ n) : v.depth ≤ n + 1 := by
  cases v with
  | list items =>
      rw [depth]
      exact Nat.succ_le_succ (depthOfAll_le shallow)
  | map entries =>
      rw [depth]
      exact Nat.succ_le_succ (depthOfEntries_le fun entry inside => shallow _ (List.mem_map_of_mem inside))
  | pair first second => cases noPair
  | _ => exact Nat.zero_le _

end QueryHooks.Value
