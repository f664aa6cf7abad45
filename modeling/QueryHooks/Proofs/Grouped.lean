import Mathlib.Data.List.Basic
import Mathlib.Data.List.Induction
import Mathlib.Data.List.Perm.Basic

/-!
Items put together by a key: each key once, in the order in which the keys are first seen, and with it
the items that have it, in their own order.
-/

namespace QueryHooks.Grouped

variable {α β κ : Type} [DecidableEq κ]

/-- Change what stands under a key. A key that is not there comes last, with a first value. -/
def put (k : κ) (first : β) (more : β → β) : List (κ × β) → List (κ × β)
  | [] => [(k, first)]
  | (other, b) :: rest => if other == k then (other, more b) :: rest else (other, b) :: put k first more rest

/-- Values set one after the other: a later value takes the place of an earlier one of its key. -/
def set (values : List (κ × β)) : List (κ × β) :=
  values.foldl (fun done value => put value.1 value.2 (fun _ => value.2) done) []

/-- The items of each key, keys in the order in which they are first seen. -/
def of (key : α → κ) (items : List α) : List (κ × List α) :=
  (items.map key).eraseDups.map fun k => (k, items.filter (key · == k))

/-! ## Keys in the order in which they are first seen -/

theorem eraseDups_concat (keys : List κ) (k : κ) :
    (keys ++ [k]).eraseDups = if k ∈ keys then keys.eraseDups else keys.eraseDups ++ [k] := by
  rw [List.eraseDups_append]
  by_cases known : k ∈ keys
  · rw [if_pos known]
    simp [List.removeAll, known]
  · rw [if_neg known]
    simp [List.removeAll, known, List.eraseDups_cons]

theorem nodup_eraseDups (keys : List κ) : keys.eraseDups.Nodup := by
  induction keys using List.reverseRecOn with
  | nil => exact List.nodup_nil
  | append_singleton keys k ih =>
      rw [eraseDups_concat]
      split
      · exact ih
      · next unseen =>
          refine List.nodup_append.2 ⟨ih, List.pairwise_singleton _ k, ?_⟩
          intro seen inside other same
          rw [List.mem_singleton.1 same]
          rintro rfl
          exact unseen (List.mem_eraseDups.1 inside)

/-- The keys of two lists: those of the first, then those that only the second has. -/
theorem eraseDups_append_eq (first second : List κ) :
    (first ++ second).eraseDups = first.eraseDups ++ second.eraseDups.filter (· ∉ first) := by
  induction second using List.reverseRecOn with
  | nil => rw [List.append_nil, List.eraseDups_nil, List.filter_nil, List.append_nil]
  | append_singleton second k ih =>
      rw [← List.append_assoc, eraseDups_concat, eraseDups_concat, ih]
      by_cases known : k ∈ first
      · rw [if_pos (List.mem_append_left _ known)]
        split
        · rfl
        · rw [List.filter_append, List.filter_singleton, decide_eq_false (not_not.2 known)]
          exact congrArg _ (List.append_nil _).symm
      · by_cases here : k ∈ second
        · rw [if_pos (List.mem_append_right _ here), if_pos here]
        · rw [if_neg fun inside => (List.mem_append.1 inside).elim known here, if_neg here, List.filter_append,
            List.filter_singleton, decide_eq_true known, List.append_assoc]
          rfl

/-! ## One item more -/

section Put

variable {k : κ} {first : β} {more : β → β} {keys : List κ} {f : κ → β}

theorem put_of_not_mem {groups : List (κ × β)} (fresh : k ∉ groups.map (·.1)) :
    put k first more groups = groups ++ [(k, first)] := by
  induction groups with
  | nil => rfl
  | cons group rest ih =>
      obtain ⟨different, later⟩ := List.ne_and_not_mem_of_not_mem_cons fresh
      rw [put, if_neg (by simpa using different.symm), ih later, List.cons_append]

theorem keys_put (groups : List (κ × β)) : (put k first more groups).map (·.1) =
    if k ∈ groups.map (·.1) then groups.map (·.1) else groups.map (·.1) ++ [k] := by
  induction groups with
  | nil => rfl
  | cons group rest ih =>
      rw [put]
      by_cases same : group.1 = k
      · rw [if_pos (beq_iff_eq.2 same), List.map_cons, List.map_cons, if_pos (same ▸ List.mem_cons_self)]
      · rw [if_neg (by simpa using same), List.map_cons, List.map_cons, ih]
        by_cases known : k ∈ rest.map (·.1)
        · rw [if_pos known, if_pos (List.mem_cons_of_mem _ known)]
        · rw [if_neg known, if_neg fun here => (List.mem_cons.1 here).elim (fun equal => same equal.symm) known]
          rfl

theorem put_of_mem (distinct : keys.Nodup) (known : k ∈ keys) :
    put k first more (keys.map fun other => (other, f other)) =
      keys.map fun other => (other, if other = k then more (f other) else f other) := by
  induction keys with
  | nil => cases known
  | cons other rest ih =>
      obtain ⟨fresh, distinct⟩ := List.nodup_cons.1 distinct
      rw [List.map_cons, List.map_cons, put]
      by_cases same : other = k
      · have others : ∀ k' ∈ rest, (k', f k') = (k', if k' = k then more (f k') else f k') := by
          intro k' inside
          rw [if_neg]
          rintro rfl
          exact fresh (same ▸ inside)
        rw [if_pos (beq_iff_eq.2 same), if_pos same, List.map_congr_left others]
      · rw [if_neg (by simpa using same), if_neg same,
          ih distinct ((List.mem_cons.1 known).resolve_left fun equal => same equal.symm)]

end Put

theorem set_concat (values : List (κ × β)) (value : κ × β) :
    set (values ++ [value]) = put value.1 value.2 (fun _ => value.2) (set values) := by
  rw [set, List.foldl_concat, set]

theorem keys_set (values : List (κ × β)) : (set values).map (·.1) = (values.map (·.1)).eraseDups := by
  induction values using List.reverseRecOn with
  | nil => rfl
  | append_singleton values value ih =>
      rw [set_concat, keys_put, ih, List.map_append, List.map_singleton, eraseDups_concat]
      simp only [List.mem_eraseDups]

theorem nodup_keys_set (values : List (κ × β)) : ((set values).map (·.1)).Nodup :=
  keys_set values ▸ nodup_eraseDups _

theorem mem_keys_set {values : List (κ × β)} : k ∈ (set values).map (·.1) ↔ k ∈ values.map (·.1) := by
  rw [keys_set, List.mem_eraseDups]

theorem set_eq_self {values : List (κ × β)} (distinct : (values.map (·.1)).Nodup) : set values = values := by
  induction values using List.reverseRecOn with
  | nil => rfl
  | append_singleton values value ih =>
      rw [List.map_append, List.map_singleton, List.nodup_append] at distinct
      obtain ⟨before, -, apart⟩ := distinct
      rw [set_concat, ih before, put_of_not_mem fun known => apart _ known _ (List.mem_singleton.2 rfl) rfl]

/--
A further item joins those of its key, or is the first of a new one. The items of a key are seen through a view that
takes one more in the same way.
-/
theorem put_of (key : α → κ) (view : List α → β) (more : β → β) (a : α)
    (joins : ∀ items, items ≠ [] → more (view items) = view (items ++ [a])) (items : List α) :
    put (key a) (view [a]) more ((of key items).map fun group => (group.1, view group.2)) =
      (of key (items ++ [a])).map fun group => (group.1, view group.2) := by
  have keyed (k : κ) : (items ++ [a]).filter (key · == k) =
      if k = key a then items.filter (key · == k) ++ [a] else items.filter (key · == k) := by
    rw [List.filter_append, List.filter_singleton]
    by_cases same : k = key a
    · rw [if_pos same, beq_iff_eq.2 same.symm]
      rfl
    · rw [if_neg same, beq_false_of_ne (Ne.symm same)]
      exact List.append_nil _
  have viewed (items : List α) : (of key items).map (fun group => (group.1, view group.2)) =
      (items.map key).eraseDups.map fun k => (k, view (items.filter (key · == k))) := by
    rw [of, List.map_map]
    rfl
  rw [viewed, viewed, List.map_append, List.map_singleton, eraseDups_concat]
  by_cases known : key a ∈ items.map key
  · have some : items.filter (key · == key a) ≠ [] := by
      obtain ⟨other, inside, same⟩ := List.mem_map.1 known
      exact List.ne_nil_of_mem (List.mem_filter.2 ⟨inside, beq_iff_eq.2 same⟩)
    rw [if_pos known, put_of_mem (nodup_eraseDups _) (List.mem_eraseDups.2 known)]
    refine List.map_congr_left fun k _ => ?_
    rw [keyed]
    split
    · next same => rw [same, joins _ some]
    · rfl
  · have apart : ∀ k ∈ (items.map key).eraseDups, (k, view (items.filter (key · == k))) =
        (k, view ((items ++ [a]).filter (key · == k))) := by
      intro k inside
      rw [keyed, if_neg]
      rintro rfl
      exact known (List.mem_eraseDups.1 inside)
    have alone : [a] = (items ++ [a]).filter (key · == key a) := by
      rw [keyed, if_pos rfl]
      refine (List.append_left_eq_self.2 (List.filter_eq_nil_iff.2 ?_)).symm
      intro other inside same
      exact known (List.mem_map.2 ⟨other, inside, beq_iff_eq.1 same⟩)
    have unseen : key a ∉ ((items.map key).eraseDups.map fun k => (k, view (items.filter (key · == k)))).map (·.1) := by
      rw [List.map_map]
      simpa using known
    rw [if_neg known, put_of_not_mem unseen, List.map_append, List.map_singleton,
      List.map_congr_left apart, ← alone]

/-! ## Further items -/

/-- Groups and further ones: known keys take the further items at their end, and new keys come last. -/
def merge (first second : List (κ × List α)) : List (κ × List α) :=
  first.map (fun group => (group.1, group.2 ++ (second.lookup group.1).getD [])) ++
    second.filter fun group => group.1 ∉ first.map (·.1)

theorem keys_of (key : α → κ) (items : List α) : (of key items).map (·.1) = (items.map key).eraseDups := by
  rw [of, List.map_map]
  exact List.map_id _

theorem lookup_of (key : α → κ) (items : List α) (k : κ) :
    ((of key items).lookup k).getD [] = items.filter (key · == k) := by
  by_cases known : k ∈ items.map key
  · rw [of, List.lookup_graph _ (List.mem_eraseDups.2 known), Option.getD_some]
  · have unseen : (of key items).lookup k = none := by
      refine List.lookup_eq_none_iff.2 fun group inside => ?_
      obtain ⟨other, seen, rfl⟩ := List.mem_map.1 inside
      refine bne_iff_ne.2 ?_
      rintro rfl
      exact known (List.mem_eraseDups.1 seen)
    rw [unseen, Option.getD_none, List.filter_eq_nil_iff.2]
    intro a inside same
    exact known (List.mem_map.2 ⟨a, inside, beq_iff_eq.1 same⟩)

/-- The groups of two lists one after the other are those of the first and then those of the second. -/
theorem of_append (key : α → κ) (first second : List α) :
    of key (first ++ second) = merge (of key first) (of key second) := by
  have extended : (of key first).map (fun group => (group.1, group.2 ++ ((of key second).lookup group.1).getD [])) =
      (first.map key).eraseDups.map fun k => (k, (first ++ second).filter (key · == k)) := by
    simp only [lookup_of]
    rw [of, List.map_map]
    exact List.map_congr_left fun k _ => by rw [List.filter_append]; rfl
  have new : (of key second).filter (fun group => group.1 ∉ (first.map key).eraseDups) =
      ((second.map key).eraseDups.filter (· ∉ first.map key)).map fun k =>
        (k, (first ++ second).filter (key · == k)) := by
    have alike : (second.map key).eraseDups.filter (· ∉ first.map key) =
        (second.map key).eraseDups.filter (· ∉ (first.map key).eraseDups) := by
      simp only [List.mem_eraseDups]
    rw [alike, of, List.filter_map]
    refine List.map_congr_left fun k inside => ?_
    have fresh : k ∉ first.map key := fun seen =>
      of_decide_eq_true (List.mem_filter.1 inside).2 (List.mem_eraseDups.2 seen)
    have none : first.filter (key · == k) = [] := by
      refine List.filter_eq_nil_iff.2 fun a member same => ?_
      exact fresh (List.mem_map.2 ⟨a, member, beq_iff_eq.1 same⟩)
    rw [List.filter_append, none, List.nil_append]
  rw [merge, keys_of, extended, new, ← List.map_append, ← eraseDups_append_eq, ← List.map_append, of]

/-! ## What is kept -/

theorem perm_flatMap_filter {key : α → κ} {keys : List κ} (distinct : keys.Nodup) {items : List α}
    (known : ∀ a ∈ items, key a ∈ keys) : (keys.flatMap fun k => items.filter (key · == k)).Perm items := by
  induction keys generalizing items with
  | nil =>
      cases items with
      | nil => exact .nil
      | cons a rest => exact absurd (known a List.mem_cons_self) List.not_mem_nil
  | cons k rest ih =>
      obtain ⟨fresh, distinct⟩ := List.nodup_cons.1 distinct
      have others : (rest.flatMap fun other => items.filter (key · == other)) =
          rest.flatMap fun other => (items.filter (!key · == k)).filter (key · == other) := by
        refine List.flatMap_congr fun other inside => ?_
        rw [List.filter_filter]
        refine List.filter_congr fun a _ => ?_
        cases same : key a == other with
        | false => rfl
        | true =>
            have different : key a ≠ k := fun equal => fresh (equal ▸ eq_of_beq same ▸ inside)
            rw [beq_false_of_ne different]
            rfl
      have later : (rest.flatMap fun other => (items.filter (!key · == k)).filter (key · == other)).Perm
          (items.filter (!key · == k)) := by
        refine ih distinct fun a inside => ?_
        obtain ⟨declared, different⟩ := List.mem_filter.1 inside
        exact (List.mem_cons.1 (known a declared)).resolve_left (by simpa using different)
      rw [List.flatMap_cons, others]
      exact (later.append_left _).trans (List.filter_append_perm _ items)

/-- No item is lost, and none comes twice. -/
theorem perm_of (key : α → κ) (items : List α) : ((of key items).flatMap (·.2)).Perm items := by
  rw [of, List.flatMap_map]
  exact perm_flatMap_filter (nodup_eraseDups _) fun a inside => List.mem_eraseDups.2 (List.mem_map_of_mem inside)

end QueryHooks.Grouped
