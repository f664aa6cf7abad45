import QueryHooks.Document.Load
import QueryHooks.Reference.Pointer
import QueryHooks.Reference.Target

/-! The documents that references can reach: finitely many, each with the answer to loading it. -/

namespace QueryHooks

/-- Answers to loading documents by their keys. Only finitely many keys have a document. -/
structure Library where
  keys : List String
  answer : String → Except Failure Value
  closed : ∀ {key document}, answer key = .ok document → key ∈ keys

namespace Library

def worldKeys (world : World) : List String :=
  world.disk.files.map (fun f => Path.placeText f.1) ++ world.responses.map (·.1)

def worldAnswer (world : World) (key : String) : Except Failure Value :=
  match Document.load world key with
  | .error failure => .error failure
  | .ok document =>
      if key ∈ worldKeys world then .ok document else .error (.spec (.source (.missing key)))

theorem mem_worldKeys_of_answer {world : World} {key : String} {document : Value}
    (found : worldAnswer world key = .ok document) : key ∈ worldKeys world := by
  unfold worldAnswer at found
  split at found
  · simp at found
  · split at found
    · assumption
    · simp at found

def ofWorld (world : World) : Library := ⟨worldKeys world, worldAnswer world, mem_worldKeys_of_answer⟩

end Library

end QueryHooks

/-!
The references of a document and their targets. Following a pointer only reaches references that the
document holds, so the targets that bundling can meet are those listed here.
-/

namespace QueryHooks

/-- The reference that a mapping is, if its `$ref` is a text. -/
def Reference.of? (entries : List (Value × Value)) : Option String :=
  match Value.lookup "$ref" entries with
  | some (.text r) => some r
  | _ => none

namespace Value

mutual

/-- Every reference in a value, those beside another reference included. -/
def references : Value → List String
  | .list items => referencesOfItems items
  | .map entries => (Reference.of? entries).toList ++ referencesOfEntries entries
  | _ => []

def referencesOfItems : List Value → List String
  | [] => []
  | v :: rest => references v ++ referencesOfItems rest

def referencesOfEntries : List (Value × Value) → List String
  | [] => []
  | (_, v) :: rest => references v ++ referencesOfEntries rest

end

theorem references_subset_of_mem {v : Value} {items : List Value} (member : v ∈ items) :
    references v ⊆ referencesOfItems items := by
  induction items with
  | nil => simp at member
  | cons head rest ih =>
      intro r inside
      rw [referencesOfItems, List.mem_append]
      rcases List.mem_cons.1 member with same | later
      · exact .inl (same ▸ inside)
      · exact .inr (ih later inside)

theorem references_subset_of_mem_entries {k v : Value} {entries : List (Value × Value)}
    (member : (k, v) ∈ entries) : references v ⊆ referencesOfEntries entries := by
  induction entries with
  | nil => simp at member
  | cons head rest ih =>
      intro r inside
      obtain ⟨k', v'⟩ := head
      rw [referencesOfEntries, List.mem_append]
      rcases List.mem_cons.1 member with same | later
      · obtain ⟨_, same⟩ := Prod.mk.inj same
        exact .inl (same ▸ inside)
      · exact .inr (ih later inside)

theorem mem_of_lookup {key : String} {v : Value} {entries : List (Value × Value)}
    (found : lookup key entries = some v) : (.text key, v) ∈ entries := by
  fun_induction lookup key entries with
  | case1 => simp at found
  | case2 k v' rest same =>
      simp only [Option.some.injEq] at found
      rw [← eq_of_beq same, found]
      exact List.mem_cons_self
  | case3 k v' rest _ ih => exact List.mem_cons_of_mem _ (ih found)
  | case4 head rest _ ih => exact List.mem_cons_of_mem _ (ih found)

def referencesOfAll (values : List Value) : List String := values.flatMap references

theorem references_surrounding (around : List Value) (kind : Collection) (depth up : Nat) :
    references (surrounding around kind depth up) ⊆ referencesOfAll around := by
  intro r inside
  unfold surrounding at inside
  split at inside
  · simp [references] at inside
  · split at inside
    · next items here =>
        exact List.mem_flatMap.2 ⟨.list items, List.mem_of_getElem? here, inside⟩
    · next entries here =>
        exact List.mem_flatMap.2 ⟨.map entries, List.mem_of_getElem? here, inside⟩
    · simp [references] at inside

theorem lookup_entriesWithin (key : String) (around : List Value) (depth : Nat) (entries : List (Value × Value)) :
    lookup key (entriesWithin around depth entries) = (lookup key entries).map (within around depth) := by
  fun_induction lookup key entries with
  | case1 => rfl
  | case2 k v rest same => simp [entriesWithin, lookup, same]
  | case3 k v rest other ih => simp [entriesWithin, lookup, other, ih]
  | case4 head rest noText ih =>
      obtain ⟨k, v⟩ := head
      rw [entriesWithin, lookup, ih]
      intro s t same
      exact noText s v (by rw [(Prod.mk.inj same).1])

theorem surrounding_ne_text (around : List Value) (kind : Collection) (depth up : Nat) (r : String) :
    surrounding around kind depth up ≠ .text r := by
  unfold surrounding
  repeat' split
  all_goals simp

theorem reference_entriesWithin (around : List Value) (depth : Nat) (entries : List (Value × Value)) :
    Reference.of? (entriesWithin around depth entries) = Reference.of? entries := by
  unfold Reference.of?
  rw [lookup_entriesWithin]
  cases lookup "$ref" entries with
  | none => rfl
  | some v =>
      cases v with
      | again kind up =>
          simp only [Option.map_some, within]
          split
          · next r same => exact absurd (Option.some.inj same) (surrounding_ne_text around kind depth up r)
          · rfl
      | _ => simp [within]

mutual

/-- Putting in what lies around a value adds no reference but those around it. -/
theorem references_within (around : List Value) (depth : Nat) (v : Value) :
    references (within around depth v) ⊆ references v ++ referencesOfAll around := by
  cases v with
  | list items =>
      simp only [within, references]
      exact references_itemsWithin around (depth + 1) items
  | map entries =>
      simp only [within, references, reference_entriesWithin]
      intro r inside
      rcases List.mem_append.1 inside with here | below
      · exact List.mem_append_left _ (List.mem_append_left _ here)
      · rcases List.mem_append.1 (references_entriesWithin around (depth + 1) entries below) with own | outer
        · exact List.mem_append_left _ (List.mem_append_right _ own)
        · exact List.mem_append_right _ outer
  | again kind up =>
      intro r inside
      rw [within] at inside
      exact List.mem_append_right _ (references_surrounding around kind depth up inside)
  | _ => simp [within, references]

theorem references_itemsWithin (around : List Value) (depth : Nat) (items : List Value) :
    referencesOfItems (itemsWithin around depth items) ⊆ referencesOfItems items ++ referencesOfAll around := by
  cases items with
  | nil => simp [itemsWithin, referencesOfItems]
  | cons v rest =>
      intro r inside
      simp only [itemsWithin, referencesOfItems] at inside ⊢
      rcases List.mem_append.1 inside with here | below
      · rcases List.mem_append.1 (references_within around depth v here) with own | outer
        · exact List.mem_append_left _ (List.mem_append_left _ own)
        · exact List.mem_append_right _ outer
      · rcases List.mem_append.1 (references_itemsWithin around depth rest below) with own | outer
        · exact List.mem_append_left _ (List.mem_append_right _ own)
        · exact List.mem_append_right _ outer

theorem references_entriesWithin (around : List Value) (depth : Nat) (entries : List (Value × Value)) :
    referencesOfEntries (entriesWithin around depth entries) ⊆
      referencesOfEntries entries ++ referencesOfAll around := by
  match entries with
  | [] => simp [entriesWithin, referencesOfEntries]
  | (k, v) :: rest =>
      intro r inside
      simp only [entriesWithin, referencesOfEntries] at inside ⊢
      rcases List.mem_append.1 inside with here | below
      · rcases List.mem_append.1 (references_within around depth v here) with own | outer
        · exact List.mem_append_left _ (List.mem_append_left _ own)
        · exact List.mem_append_right _ outer
      · rcases List.mem_append.1 (references_entriesWithin around depth rest below) with own | outer
        · exact List.mem_append_left _ (List.mem_append_right _ own)
        · exact List.mem_append_right _ outer

end

/-- A part of a container has no references but those of the container. -/
theorem references_partOf {container part : Value} (inside : references part ⊆ references container) :
    references (container.partOf part) ⊆ references container := by
  unfold partOf
  split
  · intro r member
    rcases List.mem_append.1 (references_within [container] 0 part member) with own | outer
    · exact inside own
    · simpa [referencesOfAll] using outer
  · exact inside

end Value

namespace Pointer

theorem mem_of_element? {items : List Value} {index : Int} {v : Value}
    (found : element? items index = some v) : v ∈ items := by
  unfold element? at found
  split at found
  · exact List.mem_of_getElem? found
  · split at found
    · exact List.mem_of_getElem? found
    · simp at found

theorem references_step {v part : Value} {segment : String} (found : step v segment = .ok part) :
    part.references ⊆ v.references := by
  unfold step at found
  split at found
  · split at found
    · next entries part' inside =>
        injection found with same
        subst same
        refine Value.references_partOf fun r member => ?_
        rw [Value.references]
        exact List.mem_append_right _
          (Value.references_subset_of_mem_entries (Value.mem_of_lookup inside) member)
    · simp at found
  · split at found
    · next items part' inside =>
        injection found with same
        subst same
        obtain ⟨index, _, here⟩ := Option.bind_eq_some_iff.1 inside
        refine Value.references_partOf ?_
        rw [Value.references]
        exact Value.references_subset_of_mem (mem_of_element? here)
    · simp at found
  · simp at found

theorem references_walk {v part : Value} {segments : List String} (found : walk v segments = .ok part) :
    part.references ⊆ v.references := by
  induction segments generalizing v with
  | nil =>
      injection found with same
      subst same
      exact fun _ member => member
  | cons segment rest ih =>
      unfold walk at found
      split at found
      · next next inside => exact fun r member => references_step inside (ih found member)
      · simp at found

theorem references_follow {document part : Value} {pointer : String}
    (found : follow document pointer = .ok part) : part.references ⊆ document.references := by
  unfold follow at found
  split at found
  · exact references_walk found
  · simp at found

end Pointer

/-- A document to bundle: its tree, its key, and where its references lead. -/
structure Bundle where
  library : Library
  workdir : Place
  rootKey : String
  root : Value

namespace Bundle

/-- The document of a key: the root under its own key, the others as the library answers. -/
def answer (b : Bundle) (key : String) : Except Failure Value :=
  if key = b.rootKey then .ok b.root else b.library.answer key

def Holds (b : Bundle) (key : String) (document : Value) : Prop := b.answer key = .ok document

theorem holds_root (b : Bundle) : b.Holds b.rootKey b.root := if_pos rfl

/-- The documents that can be met, with their keys. -/
def documents (b : Bundle) : List (String × Value) :=
  (b.rootKey, b.root) :: b.library.keys.filterMap fun key =>
    match b.library.answer key with
    | .ok document => some (key, document)
    | .error _ => none

/-- The names of the targets of all references in all documents. -/
def targets (b : Bundle) : List String :=
  b.documents.flatMap fun (key, document) =>
    document.references.filterMap fun reference =>
      (Reference.target? b.workdir key reference).map Target.key

/-- Every reference in a value of a document leads to one of the targets. -/
def Known (b : Bundle) (key : String) (v : Value) : Prop :=
  ∀ r ∈ v.references, ∀ t, Reference.target? b.workdir key r = some t → t.key ∈ b.targets

theorem mem_documents {b : Bundle} {key : String} {document : Value} (held : b.Holds key document) :
    (key, document) ∈ b.documents := by
  unfold Holds answer at held
  split at held
  · next sameKey =>
      injection held with sameRoot
      subst sameKey sameRoot
      exact List.mem_cons_self
  · refine List.mem_cons_of_mem _ (List.mem_filterMap.2 ⟨key, b.library.closed held, ?_⟩)
    rw [held]

theorem Known.of_holds {b : Bundle} {key : String} {document : Value} (held : b.Holds key document) :
    b.Known key document := by
  intro r inside t found
  refine List.mem_flatMap.2 ⟨(key, document), mem_documents held, ?_⟩
  exact List.mem_filterMap.2 ⟨r, inside, by rw [found]; rfl⟩

theorem Known.mono {b : Bundle} {key : String} {v part : Value} (known : b.Known key v)
    (inside : part.references ⊆ v.references) : b.Known key part :=
  fun r member => known r (inside member)

/-- How many targets are not followed yet on the way to a value. -/
def unseen (b : Bundle) (seen : List String) : Nat := b.targets.countP fun key => !seen.contains key

theorem countP_unseen_lt {targets seen : List String} {key : String} (member : key ∈ targets)
    (fresh : seen.contains key = false) :
    targets.countP (fun t => !(key :: seen).contains t) < targets.countP (fun t => !seen.contains t) := by
  induction targets with
  | nil => simp at member
  | cons head rest ih =>
      have le : ∀ ts : List String,
          ts.countP (fun t => !(key :: seen).contains t) ≤ ts.countP (fun t => !seen.contains t) :=
        fun ts => List.countP_mono_left fun t _ kept => by
          simp only [List.contains_cons, Bool.not_or, Bool.and_eq_true] at kept
          exact kept.2
      rw [List.countP_cons, List.countP_cons]
      rcases List.mem_cons.1 member with same | later
      · subst same
        have := le rest
        simp only [List.contains_cons, beq_self_eq_true, Bool.true_or, Bool.not_true, fresh, Bool.not_false]
        simp only [List.contains_cons] at this
        simp only [Bool.false_eq_true, if_false, if_true]
        omega
      · have := ih later
        by_cases here : (!(key :: seen).contains head) = true
        · have also : (!seen.contains head) = true := by
            simp only [List.contains_cons, Bool.not_or, Bool.and_eq_true] at here
            exact here.2
          rw [if_pos here, if_pos also]
          omega
        · rw [if_neg here]
          omega

theorem unseen_lt {b : Bundle} {seen : List String} {key : String} (member : key ∈ b.targets)
    (fresh : seen.contains key = false) : b.unseen (key :: seen) < b.unseen seen :=
  countP_unseen_lt member fresh

end Bundle

end QueryHooks
