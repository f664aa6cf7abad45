import QueryHooks.Proofs.Api.Reported
import QueryHooks.Proofs.Bundle.Acyclic

/-!
What keeps a description from having a model. A document without references that can be bundled at all fails for paths
that are no mapping, or for a schema of an operation with a key that is no text, and for nothing else in it.
-/

namespace QueryHooks

namespace Value

/-- Whether a value is what the keys of a description are: a text, a number, a truth value or null. -/
def isPlainKey : Value → Bool
  | .null => true
  | .bool _ => true
  | .int _ => true
  | .float _ => true
  | .text _ => true
  | _ => false

def hasPlainKeys : Value → Bool
  | .map entries => entries.all fun e => e.1.isPlainKey
  | _ => true

/-- A tree in which all mappings have plain keys. -/
structure IsSimple (v : Value) : Prop where
  tree : v.IsTree
  keys : ∀ w ∈ v.all, w.hasPlainKeys = true

/-- Nothing, or a list. -/
def IsListed (v : Value) : Prop := v.isTruthy = true → ∃ items, v = .list items

namespace IsSimple

variable {v : Value}

theorem null : IsSimple .null where
  tree := rfl
  keys := by decide

theorem part {part : Value} (simple : v.IsSimple) (inside : part ∈ v.parts) : part.IsSimple where
  tree := simple.tree.part inside
  keys w here := simple.keys w (all_part inside here)

end IsSimple

end Value

namespace Api

open Value (IsSimple IsListed IsShort)

variable {v document : Value} {d : Declaration}

/-! What is read of a simple value is simple. -/

theorem simple_field (simple : v.IsSimple) (name : String) : (field v name).IsSimple := by
  rw [field, Value.part_eq_get simple.tree]
  cases found : v.get? name with
  | none => exact .null
  | some part => exact simple.part (Value.mem_parts_of_child ((Value.get_eq_child v name).symm.trans found))

theorem simple_entriesOf (simple : v.IsSimple) : ∀ e ∈ entriesOf v, e.2.IsSimple := by
  intro e inside
  cases v with
  | map entries =>
      obtain ⟨entry, member, rfl⟩ := List.mem_map.1 inside
      have inner := simple.part (List.mem_map_of_mem member : entry.2 ∈ (Value.map entries).parts)
      dsimp only
      rwa [inner.tree.partOf]
  | _ => cases inside

theorem simple_membersOf (simple : v.IsSimple) (listed : v.IsListed) : ∀ m ∈ membersOf v, m.IsSimple := by
  intro m inside
  cases truthy : v.isTruthy with
  | false =>
      rw [membersOf_of_not_truthy truthy] at inside
      cases inside
  | true =>
      obtain ⟨items, rfl⟩ := listed truthy
      obtain ⟨part, member, rfl⟩ := List.mem_map.1 inside
      have inner := simple.part (v := .list items) member
      rwa [inner.tree.partOf]

theorem simple_firstMedia {key schema : Value} (simple : v.IsSimple) (found : firstMedia? v = some (key, schema)) :
    schema.IsSimple := by
  unfold firstMedia? at found
  split at found
  · next key media rest =>
      cases found
      have inner : media.IsSimple := simple.part List.mem_cons_self
      rw [inner.tree.partOf]
      exact simple_field inner "schema"
  · cases found

theorem simple_bodySchema {schema : Value} (simple : v.IsSimple) (found : bodySchema? v = some schema) :
    schema.IsSimple := by
  obtain ⟨⟨key, media⟩, isMedia, kept⟩ := Option.bind_eq_some_iff.1 found
  dsimp only at kept
  split at kept
  · cases kept
    exact simple_firstMedia (simple_field simple "content") isMedia
  · cases kept

theorem simple_responseSchema {schema : Value} (simple : v.IsSimple) (found : responseSchema? v = some schema) :
    schema.IsSimple := by
  obtain ⟨⟨key, media⟩, isMedia, rfl⟩ := Option.map_eq_some_iff.1 found
  exact simple_firstMedia (simple_field simple "content") isMedia

/-- Whether the tags and the parameters of an operation, and the parameters of its path, are lists if there are any. -/
structure Declaration.IsListed (d : Declaration) : Prop where
  tags : (field d.operation "tags").IsListed
  shared : (field d.item "parameters").IsListed
  own : (field d.operation "parameters").IsListed

theorem Declaration.simple_schemas (simple : d.item.IsSimple) (listed : d.IsListed) :
    ∀ schema ∈ d.schemas, schema.IsSimple := by
  have declared := simple_field simple d.method.text
  intro schema inside
  rw [schemas, List.mem_append, List.mem_append] at inside
  rcases inside with ofParameter | ofBody | ofResponse
  · obtain ⟨p, member, rfl⟩ := List.mem_map.1 ofParameter
    rcases List.mem_append.1 (List.mem_filter.1 member).1 with shared | own
    · exact simple_field (simple_membersOf (simple_field simple "parameters") listed.shared p shared) "schema"
    · exact simple_field (simple_membersOf (simple_field declared "parameters") listed.own p own) "schema"
  · exact simple_bodySchema (simple_field declared "requestBody") (Option.mem_toList.1 ofBody)
  · obtain ⟨e, member, found⟩ := List.mem_flatMap.1 ofResponse
    have response := simple_entriesOf (simple_field declared "responses") e (List.mem_filter.1 member).1
    exact simple_responseSchema response (Option.mem_toList.1 found)

theorem simple_of_mem_declarations (simple : document.IsSimple) (declared : d ∈ declarations document) :
    d.item.IsSimple := by
  obtain ⟨entry, inside, here⟩ := List.mem_flatMap.1 declared
  obtain ⟨method, -, rfl⟩ := List.mem_map.1 here
  exact simple_entriesOf (simple_field simple "paths") entry (List.mem_filter.1 inside).1

theorem first_of_isListed (listed : v.IsListed) (truthy : v.isTruthy = true) : (first? v).isSome = true := by
  obtain ⟨items, rfl⟩ := listed truthy
  cases items with
  | nil => cases truthy
  | cons first rest => rfl

theorem members_of_isListed (listed : v.IsListed) (truthy : v.isTruthy = true) : (members? v).isSome = true := by
  obtain ⟨items, rfl⟩ := listed truthy
  rfl

theorem Declaration.IsListed.opens (listed : d.IsListed) : d.IsOpen where
  tags := first_of_isListed listed.tags
  shared := members_of_isListed listed.shared
  own := members_of_isListed listed.own

/-! Malformed descriptions. -/

/-- Whether a schema is a mapping with a key that is no text. -/
def HasOddKey (schema : Value) : Prop :=
  ∃ entries, schema = .map entries ∧ ∃ e ∈ entries, ∀ name, e.1 ≠ .text name

theorem schemaKey_isSome_iff {key : Value} (plain : key.isPlainKey = true) :
    (schemaKey? key).isSome = true ↔ ∃ name, key = .text name := by
  cases key with
  | text name => exact ⟨fun _ => ⟨name, rfl⟩, fun _ => rfl⟩
  | bytes octets => cases plain
  | _ =>
      refine ⟨nofun, ?_⟩
      rintro ⟨name, same⟩
      cases same

theorem isKeyed_iff (simple : v.IsSimple) : IsKeyed v ↔ ¬ HasOddKey v := by
  cases v with
  | map entries =>
      have plain := List.all_eq_true.1 (simple.keys _ (Value.mem_all_self _))
      constructor
      · rintro keyed ⟨_, same, e, inside, odd⟩
        cases same
        obtain ⟨name, isText⟩ := (schemaKey_isSome_iff (plain e inside)).1 (keyed e inside)
        exact odd name isText
      · intro even e inside
        refine (schemaKey_isSome_iff (plain e inside)).2 ?_
        by_contra noText
        exact even ⟨entries, rfl, e, inside, not_exists.1 noText⟩
  | _ =>
      refine ⟨fun _ => ?_, fun _ => trivial⟩
      rintro ⟨entries, same, -⟩
      cases same

/-- What is wrong with a description: paths that are no mapping, or a schema of an operation with an odd key. -/
inductive IsMalformed (document : Value) : Prop
  | paths (truthy : (field document "paths").isTruthy = true) (noMap : (field document "paths").isMap = false)
  | schema (d : Declaration) (declared : d ∈ declarations document) (schema : Value) (inside : schema ∈ d.schemas)
      (odd : HasOddKey schema)

theorem isFit_iff (simple : document.IsSimple) (listed : ∀ d ∈ declarations document, d.IsListed) :
    IsFit document ↔ ¬ IsMalformed document := by
  have keyed {d : Declaration} (declared : d ∈ declarations document) {schema : Value} (inside : schema ∈ d.schemas) :
      IsKeyed schema ↔ ¬ HasOddKey schema :=
    isKeyed_iff (d.simple_schemas (simple_of_mem_declarations simple declared) (listed d declared) schema inside)
  constructor
  · rintro fit (⟨truthy, noMap⟩ | ⟨d, declared, schema, inside, odd⟩)
    · rw [fit.paths truthy] at noMap
      cases noMap
    · exact (keyed declared inside).1 (fit.schemas d declared schema inside) odd
  · intro sound
    refine ⟨fun truthy => ?_, fun d declared schema inside => ?_⟩
    · by_contra noMap
      exact sound (.paths truthy (Bool.eq_false_iff.2 noMap))
    · exact (keyed declared inside).2 fun odd => sound (.schema d declared schema inside odd)

/-- A description without references in which tags and parameters are lists, and every integer can be written. -/
structure IsPlain (document : Value) : Prop where
  isMap : document.isMap = true
  simple : document.IsSimple
  unreferenced : ∀ w ∈ document.all, w.reference? = none
  short : document.IsShort
  listed : ∀ d ∈ declarations document, d.IsListed

section

variable {library : Library} {workdir : Place} {source : Option String} {key : String}

theorem Model.decides_extractIn (isKey : Reference.documentKey? workdir source = some key) (plain : IsPlain document)
    (shallow : document.depth ≤ Bundle.maxDepth) :
    Decides (extractIn library workdir document source) (¬ IsMalformed document) := by
  -- Without references bundling gives the document back, so it is what the model is read from.
  have bundled : bundleIn library workdir document source = .ok document := by
    rw [bundleIn, isKey]
    exact Bundle.run_of_unreferenced plain.simple.tree plain.unreferenced shallow
  rw [extractIn, bundled]
  exact (decides_ofBundled plain.isMap plain.short fun d declared => (plain.listed d declared).opens).congr
    (isFit_iff plain.simple plain.listed)

theorem Model.extractIn_of_deep (isKey : Reference.documentKey? workdir source = some key)
    (deep : Bundle.maxDepth < document.depth) : extractIn library workdir document source = .error .unexpected := by
  have stuck : bundleIn library workdir document source = .error .unexpected := by
    rw [bundleIn, isKey]
    exact Bundle.run_of_deep deep
  rw [extractIn, stuck]
  rfl

/--
A description that does not nest too deep has a model exactly if it is not malformed, and is reported to be at fault
if it is. Nothing else that stands in it keeps it from having one.
-/
theorem Model.extractIn_fails_iff (isKey : Reference.documentKey? workdir source = some key)
    (plain : IsPlain document) :
    ((∃ model, extractIn library workdir document source = .ok model) ↔
      document.depth ≤ Bundle.maxDepth ∧ ¬ IsMalformed document) ∧
    ((∃ problem, extractIn library workdir document source = .error (.spec problem)) ↔
      document.depth ≤ Bundle.maxDepth ∧ IsMalformed document) ∧
    (extractIn library workdir document source = .error .unexpected ↔ Bundle.maxDepth < document.depth) := by
  by_cases shallow : document.depth ≤ Bundle.maxDepth
  · have decides : Decides (extractIn library workdir document source) (¬ IsMalformed document) :=
      decides_extractIn isKey plain shallow
    refine ⟨?_, ?_, ?_⟩
    · rw [decides.ok_iff, and_iff_right shallow]
    · rw [decides.spec_iff, not_not, and_iff_right shallow]
    · refine ⟨fun stuck => ?_, fun deep => absurd shallow (Nat.not_le.2 deep)⟩
      obtain ⟨⟨problem, isSpec⟩, -⟩ := decides.failed _ stuck
      cases isSpec
  · have stuck : extractIn library workdir document source = .error .unexpected :=
      extractIn_of_deep isKey (Nat.not_le.1 shallow)
    rw [stuck]
    refine ⟨⟨?_, fun both => absurd both.1 shallow⟩, ⟨?_, fun both => absurd both.1 shallow⟩,
      ⟨fun _ => Nat.not_le.1 shallow, fun _ => rfl⟩⟩
    · rintro ⟨model, impossible⟩
      cases impossible
    · rintro ⟨problem, impossible⟩
      cases impossible

end

/-- A schema with a truth value for a key, as `on` is one in YAML. -/
private def switch : Value := .map [(.text "type", .text "object"), (.bool true, .null)]

private def switchItem : Value :=
  let response := Value.record [("content", .record [("application/json", .record [("schema", switch)])])]
  .record [("get", .record [("responses", .record [("200", response)])])]

private def switches : Value := .record [("info", .list []), ("paths", .record [("/a", switchItem), ("/b", .null)])]

private theorem declarations_switches : declarations switches = [⟨"/a", switchItem, .get⟩] := by
  with_unfolding_all rfl

private theorem switches_plain : IsPlain switches where
  isMap := rfl
  simple := ⟨rfl, by decide⟩
  unreferenced := by decide
  short := rfl
  listed := by
    intro d declared
    rw [declarations_switches] at declared
    cases List.mem_singleton.1 declared
    exact ⟨nofun, nofun, nofun⟩

theorem switches_fails : IsPlain switches ∧ IsMalformed switches ∧
    ∃ problem, Model.extractIn (.ofDocuments []) [] switches (some "api.json") = .error (.spec problem) := by
  have malformed : IsMalformed switches := by
    have declared : (⟨"/a", switchItem, .get⟩ : Declaration) ∈ declarations switches :=
      declarations_switches ▸ List.mem_singleton_self _
    have schemas : (⟨"/a", switchItem, .get⟩ : Declaration).schemas = [switch] := by with_unfolding_all rfl
    refine .schema _ declared switch (schemas ▸ List.mem_singleton_self _) ?_
    exact ⟨_, rfl, (.bool true, .null), List.mem_cons_of_mem _ List.mem_cons_self, nofun⟩
  exact ⟨switches_plain, malformed,
    (Model.extractIn_fails_iff documentKey_apiJson switches_plain).2.1.2 ⟨by decide, malformed⟩⟩

/-! Descriptions that nest too deep. -/

/-- What lies in lists around a value is such a list, or lies in the value. -/
private theorem forall_all_wrap {motive : Value → Prop} (lists : ∀ items, motive (.list items))
    (inner : ∀ w ∈ v.all, motive w) (n : Nat) : ∀ w ∈ (Bundle.wrap n v).all, motive w := by
  induction n with
  | zero => exact inner
  | succ n ih =>
      intro w here
      rcases Value.mem_all_iff.1 here with rfl | ⟨part, inside, below⟩
      · exact lists _
      · cases List.mem_singleton.1 inside
        exact ih w below

private theorem short_wrap (short : v.IsShort) (n : Nat) : (Bundle.wrap n v).IsShort := by
  induction n with
  | zero => exact short
  | succ n ih => exact IsShort.list_iff.2 (List.forall_mem_singleton.2 ih)

/-- A description with nothing in it but lists, too deep inside one another. -/
private def pit : Value := .record [("a", Bundle.wrap 600 .null)]

private theorem forall_all_pit {motive : Value → Prop} (whole : motive pit) (lists : ∀ items, motive (.list items))
    (null : motive .null) : ∀ w ∈ pit.all, motive w := by
  intro w here
  rcases Value.mem_all_iff.1 here with rfl | ⟨part, inside, below⟩
  · exact whole
  · cases List.mem_singleton.1 inside
    exact forall_all_wrap lists (v := .null) (List.forall_mem_singleton.2 null) 600 w below

private theorem pit_plain : IsPlain pit where
  isMap := rfl
  simple := ⟨Bundle.chasm_trees.root, forall_all_pit rfl (fun _ => rfl) rfl⟩
  unreferenced := forall_all_pit rfl (fun _ => rfl) rfl
  short := IsShort.map_iff.2 (List.forall_mem_singleton.2 ⟨rfl, short_wrap (v := .null) rfl 600⟩)
  listed := by
    intro d declared
    have none : declarations pit = [] := rfl
    rw [none] at declared
    cases declared

/-- Not only malformed descriptions have no model: one without a fault can nest too deep. -/
theorem exists_sound_without_model : ¬ ∀ document, IsPlain document →
    ((∃ failure, Model.extractIn (.ofDocuments []) [] document (some "api.json") = .error failure) ↔
      IsMalformed document) := by
  intro always
  have deep : Bundle.maxDepth < pit.depth := by
    change Bundle.maxDepth < Nat.max (Bundle.wrap 600 .null).depth 0 + 1
    rw [Bundle.depth_wrap]
    decide
  have stuck : Model.extractIn (.ofDocuments []) [] pit (some "api.json") = .error .unexpected :=
    Model.extractIn_of_deep documentKey_apiJson deep
  cases (always pit pit_plain).1 ⟨_, stuck⟩ with
  | paths truthy noMap => cases truthy
  | schema d declared schema inside odd =>
      have none : declarations pit = [] := rfl
      rw [none] at declared
      cases declared

end Api

end QueryHooks
