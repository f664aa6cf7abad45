import Mathlib.Data.List.Nodup
import QueryHooks.Proofs.Api.MovedOut
import QueryHooks.Proofs.Naming.Characters
import QueryHooks.Request.Preview

/-!
Operations found by a name. The name is compared with the id, the function and the hook of one operation after the
other, so an earlier operation hides a later one whose id is the name of its function or hook.
-/

namespace QueryHooks.Request

open QueryHooks.Api (Model Operation)
open QueryHooks.Naming (functionName hookName isName_functionName isName_hookName isNameChar)

variable {model : Model} {name : String} {op : Operation}

/-- A relation holds of a list's items in order exactly if it holds of each and those before it. -/
private theorem pairwise_iff_forall_before {α : Type} {R : α → α → Prop} {items : List α} :
    items.Pairwise R ↔ ∀ before a after, items = before ++ a :: after → ∀ b ∈ before, R b a := by
  constructor
  · rintro pairwise before a after rfl b inside
    exact (List.pairwise_append.1 pairwise).2.2 b inside a List.mem_cons_self
  · intro each
    induction items using List.reverseRecOn with
    | nil => exact .nil
    | append_singleton front last ih =>
        refine List.pairwise_append.2 ⟨ih fun before a after whole => ?_, List.pairwise_singleton R last, ?_⟩
        · exact each before a (after ++ [last]) (by rw [whole, List.append_assoc, List.cons_append])
        · exact fun b inside a same => List.mem_singleton.1 same ▸ each front last [] rfl b inside

/-- The names of an operation. -/
def namesOf (op : Operation) : List String := [op.id, functionName op, hookName op]

/-- Whether the id of an operation is a derived name of another. -/
def Hides (earlier op : Operation) : Prop := op.id = functionName earlier ∨ op.id = hookName earlier

theorem isNamed_iff : isNamed name op = true ↔ name ∈ namesOf op := by
  simp [isNamed, namesOf, or_assoc]

theorem find_eq_ok_iff : find model name = .ok op ↔ model.operations.find? (isNamed name) = some op := by
  unfold find
  split
  · next other found => rw [found, Except.ok.injEq, Option.some.injEq]
  · next missed => rw [missed]; exact iff_of_false (fun same => nomatch same) fun same => nomatch same

theorem find_eq_error_iff {failure : Failure} : find model name = .error failure ↔
    failure = .usage (.unknownOperation name) ∧ ∀ op ∈ model.operations, name ∉ namesOf op := by
  have missed : model.operations.find? (isNamed name) = none ↔ ∀ op ∈ model.operations, name ∉ namesOf op := by
    simp only [List.find?_eq_none, isNamed_iff]
  rw [← missed]
  unfold find
  split
  · next other found => rw [found]; exact iff_of_false (fun same => nomatch same) fun same => nomatch same.2
  · next missed => rw [missed, Except.error.injEq, eq_comm, and_iff_left rfl]

theorem mem_of_find (found : find model name = .ok op) : op ∈ model.operations ∧ name ∈ namesOf op := by
  have here := find_eq_ok_iff.1 found
  exact ⟨List.mem_of_find?_eq_some here, isNamed_iff.1 (List.find?_some here)⟩

/-- Of different ids, each is found unless an operation before it hides it. -/
theorem find_id_eq_ok_iff {before after : List Operation} (distinct : (model.operations.map (·.id)).Nodup)
    (whole : model.operations = before ++ op :: after) :
    find model op.id = .ok op ↔ ∀ earlier ∈ before, ¬ Hides earlier op := by
  rw [whole, List.map_append, List.map_cons] at distinct
  have other {earlier : Operation} (inside : earlier ∈ before) : op.id ≠ earlier.id :=
    ((List.nodup_append.1 distinct).2.2 _ (List.mem_map_of_mem inside) _ List.mem_cons_self).symm
  have hides {earlier : Operation} (inside : earlier ∈ before) : isNamed op.id earlier = true ↔ Hides earlier op := by
    simp [isNamed_iff, namesOf, Hides, other inside]
  have ahead : model.operations.find? (isNamed op.id) = (before.find? (isNamed op.id)).or (some op) := by
    have own : isNamed op.id op = true := isNamed_iff.2 List.mem_cons_self
    rw [whole, List.find?_append, List.find?_cons_of_pos own]
  rw [find_eq_ok_iff, ahead]
  cases first : before.find? (isNamed op.id) with
  | none =>
      refine iff_of_true rfl fun earlier inside hidden => ?_
      exact List.find?_eq_none.1 first earlier inside ((hides inside).2 hidden)
  | some earlier =>
      have inside := List.mem_of_find?_eq_some first
      refine iff_of_false (fun same => ?_) fun shown => ?_
      · exact other inside (congrArg (·.id) (Option.some.inj same).symm)
      · exact shown earlier inside ((hides inside).1 (List.find?_some first))

/-- No name is made with a character that names do not have. -/
theorem not_hides_of_mem {c : Char} (inside : c ∈ op.id.toList) (foreign : isNameChar c = false)
    (earlier : Operation) : ¬ Hides earlier op := by
  rintro (same | same)
  · exact (isName_functionName earlier).not_mem foreign (same ▸ inside)
  · exact (isName_hookName earlier).not_mem foreign (same ▸ inside)

/--
Where ids are different, each operation is found by its own id exactly if none before it has a function or a hook of
this name; so it is where an id has a character that no name has, or where all ids name their functions and none
starts as hooks do. A name is refused exactly if no operation has it, and what is found has the name.
-/
theorem find_id_iff (model : Model) (distinct : (model.operations.map (·.id)).Nodup) :
    (∀ before op after, model.operations = before ++ op :: after →
      (find model op.id = .ok op ↔ ∀ earlier ∈ before, ¬ Hides earlier op)) ∧
    ((∀ op ∈ model.operations, find model op.id = .ok op) ↔
      model.operations.Pairwise fun earlier op => ¬ Hides earlier op) ∧
    (∀ op ∈ model.operations, (∃ c ∈ op.id.toList, isNameChar c = false) → find model op.id = .ok op) ∧
    ((∀ op ∈ model.operations, functionName op = op.id ∧ ∀ rest, op.id ≠ "use" ++ rest) →
      ∀ op ∈ model.operations, find model op.id = .ok op) ∧
    ∀ name,
      ((∃ problem, find model name = .error (.usage problem)) ↔ ∀ op ∈ model.operations, name ∉ namesOf op) ∧
      (∀ failure, find model name = .error failure → failure = .usage (.unknownOperation name)) ∧
      ∀ op, find model name = .ok op → op ∈ model.operations ∧ name ∈ namesOf op := by
  have each {before after : List Operation} {op : Operation} (whole : model.operations = before ++ op :: after) :=
    find_id_eq_ok_iff distinct whole
  have all : (∀ op ∈ model.operations, find model op.id = .ok op) ↔
      model.operations.Pairwise fun earlier op => ¬ Hides earlier op := by
    rw [pairwise_iff_forall_before]
    constructor
    · exact fun found before op after whole => (each whole).1 (found op (whole ▸ List.mem_append_cons_self))
    · intro shown op inside
      obtain ⟨before, after, whole⟩ := List.append_of_mem inside
      exact (each whole).2 (shown before op after whole)
  refine ⟨fun before op after whole => each whole, all, fun op inside ⟨c, here, foreign⟩ => ?_,
    fun named => all.2 ?_, fun name => ⟨?_, fun failure failed => (find_eq_error_iff.1 failed).1,
      fun op found => mem_of_find found⟩⟩
  · obtain ⟨before, after, whole⟩ := List.append_of_mem inside
    exact (each whole).2 fun earlier _ => not_hides_of_mem here foreign earlier
  -- An earlier function is named by another id, and no id starts as the name of a hook does.
  · refine (List.pairwise_map.1 distinct).imp_of_mem fun {earlier op} known later different => ?_
    rintro (same | same)
    · exact different (same.trans (named earlier known).1).symm
    · exact (named op later).2 _ same
  · constructor
    · rintro ⟨problem, failed⟩
      exact (find_eq_error_iff.1 failed).2
    · exact fun missed => ⟨_, find_eq_error_iff.2 ⟨rfl, missed⟩⟩

/-- Ids that differ in marks and capitals, one of them in the words of a hook. -/
private def shelves : Value := .record [("paths", .record
  [("/a", .record [("get", .record [("operationId", .text "list-pets")])]),
   ("/b", .record [("get", .record [("operationId", .text "listPets")])]),
   ("/c", .record [("get", .record [("operationId", .text "useListPets")])]),
   ("/d", .record [("get", .record [("operationId", .text "get.pet")])])])]

private def shelvesModel : Model where
  operations := [("list-pets", "/a"), ("listPets", "/b"), ("useListPets", "/c"), ("get.pet", "/d")].map
    fun (id, path) => ⟨"default", id, .get, path, none, none, [], none, []⟩
  title := none
  version := none
  baseUrl := none

private theorem shelves_extractIn :
    Model.extractIn (.ofDocuments []) [] shelves (some "api.json") = .ok shelvesModel := by
  refine Model.extractIn_of_resolveIn shelves 30 (by decide) (by decide) ?room ?done ?model
  case room => with_unfolding_all rfl
  case done => with_unfolding_all rfl
  case model => with_unfolding_all rfl

/-- One id hides two others, which lead to it, and the last is found. -/
theorem shelves_find_id :
    ∃ document model first second third fourth,
      Model.extractIn (.ofDocuments []) [] document (some "api.json") = .ok model ∧
      model.operations = [first, second, third, fourth] ∧ (model.operations.map (·.id)).Nodup ∧
      find model second.id = .ok first ∧ find model second.id ≠ .ok second ∧
      find model third.id = .ok first ∧ find model third.id ≠ .ok third ∧
      find model fourth.id = .ok fourth := by
  have distinct : (shelvesModel.operations.map (·.id)).Nodup := by decide
  have dot : '.' ∈ "get.pet".toList := by decide
  obtain ⟨each, -, foreign, -, -⟩ := find_id_iff shelvesModel distinct
  refine ⟨_, _, _, _, _, _, shelves_extractIn, rfl, distinct, by with_unfolding_all rfl, fun found => ?_,
    by with_unfolding_all rfl, fun found => ?_,
    foreign _ (.tail _ (.tail _ (.tail _ (.head _)))) ⟨'.', dot, by decide⟩⟩
  · exact (each [_] _ _ rfl).1 found _ List.mem_cons_self (.inl (by decide))
  · exact (each [_, _] _ _ rfl).1 found _ List.mem_cons_self (.inr (by decide))

end QueryHooks.Request
