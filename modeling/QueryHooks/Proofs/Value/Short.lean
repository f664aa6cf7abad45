import QueryHooks.Bundle.Reachable
import QueryHooks.Value.Shown

/-! Values without integers that are too long to write. Each of them can be shown, and so can all that lies in it. -/

namespace QueryHooks.Value

def IsShort (v : Value) : Prop := v.hasLongInteger = false

namespace IsShort

variable {v part : Value} {items : List Value} {entries : List (Value × Value)}

theorem shown (short : v.IsShort) : v.shown = .ok v.display := by
  rw [Value.shown, if_neg (by simp [show v.hasLongInteger = false from short])]

theorem anyHasLongInteger_iff : anyHasLongInteger items = false ↔ ∀ v ∈ items, v.IsShort := by
  induction items with
  | nil => simp [anyHasLongInteger]
  | cons head rest ih => simp only [anyHasLongInteger, Bool.or_eq_false_iff, ih, List.forall_mem_cons, IsShort]

theorem anyEntryHasLongInteger_iff :
    anyEntryHasLongInteger entries = false ↔ ∀ e ∈ entries, e.1.IsShort ∧ e.2.IsShort := by
  induction entries with
  | nil => simp [anyEntryHasLongInteger]
  | cons head rest ih =>
      simp only [anyEntryHasLongInteger, Bool.or_eq_false_iff, ih, List.forall_mem_cons, IsShort]

theorem list_iff : (Value.list items).IsShort ↔ ∀ v ∈ items, v.IsShort := anyHasLongInteger_iff

theorem map_iff : (Value.map entries).IsShort ↔ ∀ e ∈ entries, e.1.IsShort ∧ e.2.IsShort :=
  anyEntryHasLongInteger_iff

theorem pair_iff {first second : Value} : (Value.pair first second).IsShort ↔ first.IsShort ∧ second.IsShort := by
  rw [IsShort, hasLongInteger, Bool.or_eq_false_iff, IsShort, IsShort]

theorem surrounding {around : List Value} (shorts : ∀ v ∈ around, v.IsShort) (kind : Collection) (depth up : Nat) :
    (Value.surrounding around kind depth up).IsShort := by
  unfold Value.surrounding
  split
  · rfl
  · split
    · next items here => exact shorts _ (List.mem_of_getElem? here)
    · next entries here => exact shorts _ (List.mem_of_getElem? here)
    · rfl

mutual

theorem within {around : List Value} (shorts : ∀ v ∈ around, v.IsShort) (depth : Nat) (v : Value)
    (short : v.IsShort) : (v.within around depth).IsShort := by
  cases v with
  | list items =>
      rw [Value.within, list_iff]
      exact itemsWithin shorts (depth + 1) items (list_iff.1 short)
  | map entries =>
      rw [Value.within, map_iff]
      exact entriesWithin shorts (depth + 1) entries (map_iff.1 short)
  | pair first second =>
      rw [Value.within, pair_iff]
      exact ⟨within shorts depth first (pair_iff.1 short).1, within shorts depth second (pair_iff.1 short).2⟩
  | again kind up => exact surrounding shorts kind depth up
  | _ => exact short

theorem itemsWithin {around : List Value} (shorts : ∀ v ∈ around, v.IsShort) (depth : Nat) (items : List Value)
    (short : ∀ v ∈ items, v.IsShort) : ∀ v ∈ Value.itemsWithin around depth items, v.IsShort := by
  cases items with
  | nil => exact short
  | cons v rest =>
      rw [List.forall_mem_cons] at short
      rw [Value.itemsWithin, List.forall_mem_cons]
      exact ⟨within shorts depth v short.1, itemsWithin shorts depth rest short.2⟩

theorem entriesWithin {around : List Value} (shorts : ∀ v ∈ around, v.IsShort) (depth : Nat)
    (entries : List (Value × Value)) (short : ∀ e ∈ entries, e.1.IsShort ∧ e.2.IsShort) :
    ∀ e ∈ Value.entriesWithin around depth entries, e.1.IsShort ∧ e.2.IsShort := by
  match entries with
  | [] => exact short
  | (k, v) :: rest =>
      rw [List.forall_mem_cons] at short
      rw [Value.entriesWithin, List.forall_mem_cons]
      exact ⟨⟨short.1.1, within shorts depth v short.1.2⟩, entriesWithin shorts depth rest short.2⟩

end

/-- A part that is taken out of a value is as short as the value and the part. -/
theorem partOf (short : v.IsShort) (partShort : part.IsShort) : (v.partOf part).IsShort := by
  unfold Value.partOf
  split
  · exact within (List.forall_mem_singleton.2 short) 0 part partShort
  · exact partShort

theorem lookup {key : String} (short : (Value.map entries).IsShort) (found : Value.lookup key entries = some part) :
    part.IsShort :=
  (map_iff.1 short _ (mem_of_lookup found)).2

theorem ofPart {key : String} (short : v.IsShort) (found : v.part? key = some part) : part.IsShort := by
  unfold part? at found
  obtain ⟨inside, here, rfl⟩ := Option.map_eq_some_iff.1 found
  cases v with
  | map entries => exact short.partOf (short.lookup here)
  | _ => cases here

end IsShort

end QueryHooks.Value
