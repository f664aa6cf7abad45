import Mathlib.Data.List.Nodup
import QueryHooks.Proofs.Api.MovedOut
import QueryHooks.Proofs.Naming.Pieces
import QueryHooks.Proofs.Render.KeysAgree

/-!
When names collide. Tags and ids that consist of the same words, as names write them, share a name,
and nothing keeps them apart; of readable tags and ids no others do.
-/

namespace QueryHooks.Render

open QueryHooks.Api (Model Operation)
open QueryHooks.Naming (SameWords functionName hookName isReadable tagKey)
open QueryHooks.TypeScript (Member Namespace)

variable {model : Model} {byTag : Bool}

/-- What reading a member of a namespace gives: of several with one key the last one counts. -/
def value? (namespaces : List Namespace) (namespaceKey name : String) : Option String :=
  (namespaces.reverse.find? (·.key == namespaceKey)).bind fun ns =>
    (ns.members.reverse.find? (·.key == name)).map (·.value)

/-- Whether all names of a model are different where they have to be. -/
structure NeverCollide (model : Model) (byTag : Bool) : Prop where
  keys : (model.operations.map keyOf).Nodup
  namespaces : (model.groups.map (tagKey ·.1)).Nodup
  hooks : ∀ ops ∈ hookedOperations model.groups byTag, (ops.map hookName).Nodup
  /-- Reading the emitted object at the key of an operation gives its factory, and it is that of no other. -/
  reads : ∀ op ∈ model.operations,
    value? (Namespace.ofText (queryKeys model.groups)) (tagKey op.tag) (functionName op) =
        some (factoryMember (tagKey op.tag) (functionName op)).value ∧
      (model.operations.map keyOf).count (keyOf op) = 1

/-- Whether the tags of a model, and the ids in each of its files of hooks, consist of different words. -/
structure WordsApart (model : Model) (byTag : Bool) : Prop where
  tags : ∀ a ∈ model.operations, ∀ b ∈ model.operations, SameWords a.tag b.tag → a.tag = b.tag
  ids : model.operations.Pairwise fun a b => (byTag = true → a.tag = b.tag) → ¬ SameWords a.id b.id

/-- Whether the tags and ids of a model are readable. -/
def IsReadable (model : Model) : Prop :=
  ∀ op ∈ model.operations, isReadable op.tag = true ∧ isReadable op.id = true

theorem tagKey_eq_iff (readable : IsReadable model) {a b : Operation} (knownA : a ∈ model.operations)
    (knownB : b ∈ model.operations) : tagKey a.tag = tagKey b.tag ↔ SameWords a.tag b.tag :=
  Naming.camelCase_eq_iff (readable a knownA).1 (readable b knownB).1

theorem functionName_eq_iff (readable : IsReadable model) {a b : Operation} (knownA : a ∈ model.operations)
    (knownB : b ∈ model.operations) : functionName a = functionName b ↔ SameWords a.id b.id :=
  Naming.camelCase_eq_iff (readable a knownA).2 (readable b knownB).2

theorem hookName_eq_iff (readable : IsReadable model) {a b : Operation} (knownA : a ∈ model.operations)
    (knownB : b ∈ model.operations) : hookName a = hookName b ↔ SameWords a.id b.id :=
  Naming.hookName_eq_iff (readable a knownA).2 (readable b knownB).2

theorem nodup_keys (readable : IsReadable model) (apart : WordsApart model byTag) :
    (model.operations.map keyOf).Nodup := by
  refine List.pairwise_map.2 (apart.ids.imp_of_mem fun {a b} knownA knownB different same => ?_)
  have tags := apart.tags a knownA b knownB ((tagKey_eq_iff readable knownA knownB).1 (congrArg Prod.fst same))
  exact different (fun _ => tags) ((functionName_eq_iff readable knownA knownB).1 (congrArg Prod.snd same))

theorem nodup_namespaces (readable : IsReadable model) (apart : WordsApart model byTag) :
    (model.groups.map (tagKey ·.1)).Nodup := by
  refine model.nodup_map_groups fun a knownA b knownB same => ?_
  exact apart.tags a knownA b knownB ((tagKey_eq_iff readable knownA knownB).1 same)

theorem nodup_hooks (readable : IsReadable model) (apart : WordsApart model byTag) {ops : List Operation}
    (hooked : ops ∈ hookedOperations model.groups byTag) : (ops.map hookName).Nodup := by
  have known := mem_of_hooked hooked
  have pairs : ops.Pairwise fun a b => ¬ SameWords a.id b.id := by
    cases byTag with
    | true =>
        obtain ⟨⟨tag, grouped⟩, inside, rfl⟩ := List.mem_map.1 hooked
        have tagged := tag_of_group inside
        obtain ⟨-, rfl⟩ := Model.mem_groups_iff.1 inside
        refine (apart.ids.sublist List.filter_sublist).imp_of_mem fun {a b} insideA insideB different => ?_
        exact different fun _ => (tagged a insideA).2.trans (tagged b insideB).2.symm
    | false =>
        rw [List.mem_singleton.1 hooked]
        refine ((Model.perm_groups model).pairwise_iff fun {a b} different same => different same.symm).2 ?_
        exact apart.ids.imp fun different => different fun impossible => by cases impossible
  exact List.pairwise_map.2 (pairs.imp_of_mem fun {a b} insideA insideB different same =>
    different ((hookName_eq_iff readable (known a insideA) (known b insideB)).1 same))

theorem find?_eq_some_of_unique {α : Type} {items : List α} {p : α → Bool} {item : α} (inside : item ∈ items)
    (holds : p item = true) (unique : ∀ other ∈ items, p other = true → other = item) :
    items.find? p = some item := by
  cases found : items.find? p with
  | none => exact absurd holds (by simpa using List.find?_eq_none.1 found item inside)
  | some other => rw [unique other (List.mem_of_find?_eq_some found) (List.find?_some found)]

/-- Where no two namespaces share a key, reading at the key of an operation gives its factory. -/
theorem value?_of_nodup (distinct : (model.groups.map (tagKey ·.1)).Nodup) {op : Operation}
    (known : op ∈ model.operations) :
    value? (Namespace.ofText (queryKeys model.groups)) (tagKey op.tag) (functionName op) =
      some (factoryMember (tagKey op.tag) (functionName op)).value := by
  obtain ⟨ops, grouped, inside⟩ := group_of_operation known
  have ns : (model.groups.map keyNamespace).reverse.find? (·.key == tagKey op.tag) =
      some (keyNamespace (op.tag, ops)) := by
    refine find?_eq_some_of_unique (List.mem_reverse.2 (List.mem_map_of_mem grouped)) (beq_self_eq_true _) ?_
    intro other within same
    obtain ⟨group, declared, rfl⟩ := List.mem_map.1 (List.mem_reverse.1 within)
    exact congrArg keyNamespace (List.inj_on_of_nodup_map distinct declared grouped (beq_iff_eq.1 same))
  have member : (keyNamespace (op.tag, ops)).members.reverse.find? (·.key == functionName op) =
      some (factoryMember (tagKey op.tag) (functionName op)) := by
    have factory : (ops.map fun other => factoryMember (tagKey op.tag) (functionName other)).reverse.find?
        (·.key == functionName op) = some (factoryMember (tagKey op.tag) (functionName op)) := by
      refine find?_eq_some_of_unique (List.mem_reverse.2 (List.mem_map.2 ⟨op, inside, rfl⟩)) (beq_self_eq_true _) ?_
      intro other within same
      obtain ⟨op', -, rfl⟩ := List.mem_map.1 (List.mem_reverse.1 within)
      exact congrArg (factoryMember (tagKey op.tag)) (beq_iff_eq.1 same)
    -- The root comes before all factories, so it does not hide one of its name.
    rw [keyNamespace, List.reverse_cons, List.find?_append, factory]
    rfl
  rw [value?, ofText_queryKeys, ns, Option.bind_some, member]
  rfl

theorem tags_of_neverCollide (never : NeverCollide model byTag) (readable : IsReadable model) :
    ∀ a ∈ model.operations, ∀ b ∈ model.operations, SameWords a.tag b.tag → a.tag = b.tag := by
  intro a knownA b knownB same
  obtain ⟨opsA, groupedA, -⟩ := group_of_operation knownA
  obtain ⟨opsB, groupedB, -⟩ := group_of_operation knownB
  exact congrArg Prod.fst (List.inj_on_of_nodup_map never.namespaces groupedA groupedB
    ((tagKey_eq_iff readable knownA knownB).2 same))

theorem ids_of_neverCollide (never : NeverCollide model byTag) (readable : IsReadable model) :
    model.operations.Pairwise fun a b => (byTag = true → a.tag = b.tag) → ¬ SameWords a.id b.id := by
  cases byTag with
  | true =>
      refine (List.pairwise_map.1 never.keys).imp_of_mem fun {a b} knownA knownB different tags same => different ?_
      rw [keyOf, keyOf, tags rfl, (functionName_eq_iff readable knownA knownB).2 same]
  | false =>
      have names := List.pairwise_map.1 (never.hooks _ (List.mem_singleton_self _))
      have whole := ((Model.perm_groups model).pairwise_iff fun {a b} different same => different same.symm).1 names
      refine whole.imp_of_mem fun {a b} knownA knownB different _ same => different ?_
      exact (hookName_eq_iff readable knownA knownB).2 same

/-- Of readable tags and ids, names collide exactly if words do; and those of ASCII letters and digits are readable. -/
theorem neverCollide_iff (model : Model) (byTag : Bool) (readable : IsReadable model) :
    (NeverCollide model byTag ↔ WordsApart model byTag) ∧
    ∀ text : String, (∀ c ∈ text.toList, Naming.isWordChar c = true → Text.isAscii c = true) →
      isReadable text = true := by
  refine ⟨⟨fun never => ?_, fun apart => ?_⟩, fun text ascii => Naming.isReadable_of_ascii ascii⟩
  · exact ⟨tags_of_neverCollide never readable, ids_of_neverCollide never readable⟩
  · have keys := nodup_keys readable apart
    have namespaces := nodup_namespaces readable apart
    refine ⟨keys, namespaces, fun ops hooked => nodup_hooks readable apart hooked, fun op known => ?_⟩
    exact ⟨value?_of_nodup namespaces known,
      List.count_eq_one_of_mem keys (List.mem_map_of_mem known)⟩

/-- Tags and ids of ASCII, each of words of its own. -/
private def shop : Model where
  operations := [("pets", "list-pets"), ("pets", "get pet"), ("pet store", "listPet"), ("store 2", "order2")].map
    fun (tag, id) => ⟨tag, id, .get, "/", none, none, [], none, []⟩
  title := none
  version := none
  baseUrl := none

theorem shop_neverCollide : IsReadable shop ∧ ∀ byTag, NeverCollide shop byTag := by
  have readable : IsReadable shop := by
    intro op known
    have ascii : ∀ op ∈ shop.operations, (∀ c ∈ op.tag.toList, Naming.isWordChar c = true → Text.isAscii c = true) ∧
        ∀ c ∈ op.id.toList, Naming.isWordChar c = true → Text.isAscii c = true := by decide
    exact ⟨Naming.isReadable_of_ascii (ascii op known).1, Naming.isReadable_of_ascii (ascii op known).2⟩
  have apart (byTag : Bool) : WordsApart shop byTag := by
    cases byTag with
    | true => exact ⟨by decide, by decide⟩
    | false => exact ⟨by decide, by decide⟩
  exact ⟨readable, fun byTag => (neverCollide_iff shop byTag readable).1.2 (apart byTag)⟩

/-- A description whose paths and tags differ in marks and capitals alone. -/
private def alike : Value := .record [("paths", .record
  [("/pets/\x7bid\x7d", .record [("get", .record [("tags", .list [.text "pet store"])])]),
   ("/pets/id", .record [("get", .record [("tags", .list [.text "pet store"])])]),
   ("/pets/ID", .record [("get", .record [("tags", .list [.text "pet-store"])])])])]

private def alikeModel : Model where
  operations :=
    [⟨"pet store", "getPetsId", .get, "/pets/\x7bid\x7d", none, none, [], none, []⟩,
     ⟨"pet store", "getPetsId", .get, "/pets/id", none, none, [], none, []⟩,
     ⟨"pet-store", "getPetsId", .get, "/pets/ID", none, none, [], none, []⟩]
  title := none
  version := none
  baseUrl := none

private theorem alike_extractIn :
    Model.extractIn (.ofDocuments []) [] alike (some "api.json") = .ok alikeModel := by
  refine Model.extractIn_of_resolveIn alike 30 (by decide) (by decide) ?room ?done ?model
  case room => with_unfolding_all rfl
  case done => with_unfolding_all rfl
  case model => with_unfolding_all rfl

theorem exists_collision :
    ∃ document model, Model.extractIn (.ofDocuments []) [] document (some "api.json") = .ok model ∧
      (model.operations.map (·.path)).Nodup ∧ ¬ (model.operations.map keyOf).Nodup ∧
      (model.groups.map (·.1)).Nodup ∧ ¬ (model.groups.map (tagKey ·.1)).Nodup ∧
      ∀ byTag, ∃ ops ∈ hookedOperations model.groups byTag, ¬ (ops.map hookName).Nodup := by
  refine ⟨_, _, alike_extractIn, by decide, by decide, by decide, by decide, fun byTag => ?_⟩
  cases byTag with
  | true => exact ⟨_, List.mem_cons_self, by decide⟩
  | false => exact ⟨_, List.mem_cons_self, by decide⟩

end QueryHooks.Render
