import QueryHooks.Bundle.Reachable

/-!
The parts of a collection and the places in a value. A place is a way of keys and indexes, and a
collection keeps its places when other values are put where its parts were.
-/

namespace QueryHooks.Value

/-- The values that lie directly in a list or a mapping. -/
def parts : Value → List Value
  | .list items => items
  | .map entries => entries.map Prod.snd
  | _ => []

/-- A collection with other values in the places of its parts; the keys stay. -/
def withParts (v : Value) (parts : List Value) : Value :=
  match v with
  | .list _ => .list parts
  | .map entries => .map ((entries.map Prod.fst).zip parts)
  | v => v

/-- One step into a collection. -/
inductive Step
  | key (k : Value)
  | index (i : Nat)
deriving Repr

/-- A place in a value: the steps that lead there. -/
abbrev Location := List Step

def position? : Value → Step → Option Nat
  | .list _, .index i => some i
  | .map entries, .key k => (entries.map Prod.fst).findIdx? fun own => sameKey own k
  | _, _ => none

def child? (v : Value) (step : Step) : Option Value := (v.position? step).bind fun i => v.parts[i]?

def at? (v : Value) : Location → Option Value
  | [] => some v
  | step :: rest => (v.child? step).bind fun child => child.at? rest

/-! Putting the parts together again -/

theorem parts_withParts {v : Value} {outs : List Value} (same : outs.length = v.parts.length) :
    (v.withParts outs).parts = outs := by
  cases v with
  | list items => rfl
  | map entries =>
      have bound : outs.length ≤ (entries.map Prod.fst).length :=
        Nat.le_of_eq (by rw [same, parts, List.length_map, List.length_map])
      exact List.map_snd_zip bound
  | _ => exact (List.length_eq_zero_iff.1 same).symm

theorem withParts_withParts {v : Value} {outs : List Value} (same : outs.length = v.parts.length)
    (later : List Value) :
    (v.withParts outs).withParts later = v.withParts later := by
  cases v with
  | map entries =>
      have bound : (entries.map Prod.fst).length ≤ outs.length :=
        Nat.le_of_eq (by rw [same, parts, List.length_map, List.length_map])
      simp only [withParts, List.map_fst_zip bound]
  | _ => rfl

theorem position_withParts {v : Value} {outs : List Value} (same : outs.length = v.parts.length)
    (step : Step) :
    (v.withParts outs).position? step = v.position? step := by
  cases v with
  | map entries =>
      cases step with
      | key k =>
          have bound : (entries.map Prod.fst).length ≤ outs.length :=
            Nat.le_of_eq (by rw [same, parts, List.length_map, List.length_map])
          have keys : ((entries.map Prod.fst).zip outs).map Prod.fst = entries.map Prod.fst :=
            List.map_fst_zip bound
          simp only [withParts, position?, keys]
      | index i => rfl
  | list items => cases step <;> rfl
  | _ => rfl

theorem child_withParts {v : Value} {outs : List Value} (same : outs.length = v.parts.length)
    (step : Step) :
    (v.withParts outs).child? step = (v.position? step).bind fun i => outs[i]? := by
  rw [child?, position_withParts same, parts_withParts same]

/-! What the parts inherit -/

theorem mem_parts_of_child {v part : Value} {step : Step} (found : v.child? step = some part) :
    part ∈ v.parts := by
  obtain ⟨i, _, here⟩ := Option.bind_eq_some_iff.1 found
  exact List.mem_of_getElem? here

theorem references_part {v part : Value} (inside : part ∈ v.parts) :
    part.references ⊆ v.references := by
  cases v with
  | list items => exact references_subset_of_mem inside
  | map entries =>
      obtain ⟨⟨k, v⟩, member, same⟩ := List.mem_map.1 inside
      subst same
      intro r found
      rw [references]
      exact List.mem_append_right _ (references_subset_of_mem_entries member found)
  | _ => simp [parts] at inside

theorem sizeOf_part {v part : Value} (inside : part ∈ v.parts) : sizeOf part < sizeOf v := by
  cases v with
  | list items =>
      have small : sizeOf part < sizeOf items := List.sizeOf_lt_of_mem inside
      rw [list.sizeOf_spec]
      omega
  | map entries =>
      obtain ⟨⟨k, v⟩, member, same⟩ := List.mem_map.1 inside
      subst same
      have small := List.sizeOf_lt_of_mem member
      simp only [map.sizeOf_spec, Prod.mk.sizeOf_spec] at small ⊢
      omega
  | _ => simp [parts] at inside

private theorem depth_le_all {items : List Value} {v : Value} (member : v ∈ items) :
    v.depth ≤ depthOfAll items := by
  induction items with
  | nil => cases member
  | cons head rest ih =>
      rw [depthOfAll]
      rcases List.mem_cons.1 member with same | later
      · subst same
        exact Nat.le_max_left _ _
      · exact Nat.le_trans (ih later) (Nat.le_max_right _ _)

private theorem depth_le_entries {entries : List (Value × Value)} {e : Value × Value}
    (member : e ∈ entries) :
    e.2.depth ≤ depthOfEntries entries := by
  induction entries with
  | nil => cases member
  | cons head rest ih =>
      obtain ⟨k, v⟩ := head
      rw [depthOfEntries]
      rcases List.mem_cons.1 member with same | later
      · subst same
        exact Nat.le_max_left _ _
      · exact Nat.le_trans (ih later) (Nat.le_max_right _ _)

theorem depth_part {v part : Value} (inside : part ∈ v.parts) : part.depth < v.depth := by
  cases v with
  | list items =>
      rw [depth]
      exact Nat.lt_succ_of_le (depth_le_all inside)
  | map entries =>
      obtain ⟨e, member, same⟩ := List.mem_map.1 inside
      subst same
      rw [depth]
      exact Nat.lt_succ_of_le (depth_le_entries member)
  | _ => simp [parts] at inside

end QueryHooks.Value
