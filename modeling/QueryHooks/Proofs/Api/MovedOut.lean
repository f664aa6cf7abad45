import QueryHooks.Api.Extract
import QueryHooks.Proofs.Bundle.MovedOut

/-!
The model of an API does not tell whether a part of the description is written in its place or
behind a reference: bundling puts the part back, and no field that the model is read from is the new
entry.
-/

namespace QueryHooks

/-- All that is needed to move a part out without a trace in the model. -/
structure Bundle.MovesOut (b : Bundle) (place : Value.Location) (name : String) (t : Value) :
    Prop where
  trees : b.Trees
  unmarked : Unmarked b.rootKey
  movable : b.Movable place name t
  sameRoom : b.Fits ↔ (b.movedOut place name).Fits

namespace Api

variable {document w : Value} {name key : String}

/-- The top-level entries that a model is read from. -/
def readEntries : List String := ["info", "servers", "paths"]

theorem field_withEntry (tree : document.IsTree) (tree' : (document.withEntry name w).IsTree)
    (different : key ≠ name) :
    field (document.withEntry name w) key = field document key := by
  rw [field, field, Value.part_eq_get tree', Value.part_eq_get tree,
    Value.get_withEntry_of_ne different]

theorem Model.ofBundled_withEntry (tree : document.IsTree)
    (tree' : (document.withEntry name w).IsTree) (unread : name ∉ readEntries) :
    Model.ofBundled (document.withEntry name w) = Model.ofBundled document := by
  have same (key : String) (isRead : key ∈ readEntries) :
      field (document.withEntry name w) key = field document key :=
    field_withEntry tree tree' fun equal => unread (equal ▸ isRead)
  have info := same "info" (by decide)
  have servers := same "servers" (by decide)
  have paths := same "paths" (by decide)
  cases document with
  | map entries =>
      rw [Value.withEntry] at info servers paths ⊢
      simp only [Model.ofBundled, info, servers, paths]
  | _ => rfl

theorem Model.extractIn_of_run {library : Library} {workdir : Place} {source : Option String}
    {out : Value} {m : Model} (isKey : Reference.documentKey? workdir source = some key)
    (done : (Bundle.mk library workdir key document).run = .ok out)
    (isModel : Model.ofBundled out = .ok m) :
    Model.extractIn library workdir document source = .ok m := by
  unfold Model.extractIn bundleIn
  rw [isKey]
  simp only [done]
  exact isModel

theorem documentKey_apiJson : Reference.documentKey? [] (some "api.json") = some "/api.json" := by
  with_unfolding_all rfl

/-- A description without other documents bundles to what resolving it gives, if it has room. -/
theorem bundleIn_of_resolveIn (out : Value) (calls : Nat) (tree : document.IsTree)
    (shallow : document.depth ≤ Bundle.maxDepth)
    (room : (Bundle.mk (.ofDocuments []) [] "/api.json" document).start.hasRoom calls Bundle.maxSteps = true)
    (done : (Bundle.mk (.ofDocuments []) [] "/api.json" document).start.resolveIn calls = .ok out) :
    bundleIn (.ofDocuments []) [] document (some "api.json") = .ok out := by
  have trees : (Bundle.mk (.ofDocuments []) [] "/api.json" document).Trees := .of_documents rfl tree (by simp)
  rw [bundleIn, documentKey_apiJson]
  exact Bundle.run_of_resolveIn trees (.of_hasRoom shallow room) done

theorem Model.extractIn_of_resolveIn (out : Value) (calls : Nat) {m : Model} (tree : document.IsTree)
    (shallow : document.depth ≤ Bundle.maxDepth)
    (room : (Bundle.mk (.ofDocuments []) [] "/api.json" document).start.hasRoom calls Bundle.maxSteps = true)
    (done : (Bundle.mk (.ofDocuments []) [] "/api.json" document).start.resolveIn calls = .ok out)
    (isModel : Model.ofBundled out = .ok m) :
    Model.extractIn (.ofDocuments []) [] document (some "api.json") = .ok m := by
  rw [extractIn, bundleIn_of_resolveIn out calls tree shallow room done]
  exact isModel

/-- Moving a part of a description out does not change the model: both have the same one, or neither has one. -/
theorem Model.extractIn_movedOut {library : Library} {workdir : Place} {source : Option String}
    {t : Value} {place : Value.Location} (unread : name ∉ readEntries)
    (moves : ∀ key, Reference.documentKey? workdir source = some key →
      (Bundle.mk library workdir key document).MovesOut place name t) (m : Model) :
    Model.extractIn library workdir (document.movedOut place name) source = .ok m ↔
      Model.extractIn library workdir document source = .ok m := by
  unfold Model.extractIn bundleIn
  cases isKey : Reference.documentKey? workdir source with
  | none => exact Iff.rfl
  | some key =>
      obtain ⟨trees, unmarked, movable, sameRoom⟩ := moves key isKey
      obtain ⟨there, back⟩ := movable.run trees unmarked sameRoom
      let b : Bundle := ⟨library, workdir, key, document⟩
      change ((b.movedOut place name).run >>= Model.ofBundled) = .ok m ↔
        (b.run >>= Model.ofBundled) = .ok m
      cases done : b.run with
      | ok out =>
          obtain ⟨entry, done'⟩ := there out done
          have sameModel : Model.ofBundled (out.withEntry name entry) = Model.ofBundled out :=
            ofBundled_withEntry (Bundle.tree_of_run trees done)
              (Bundle.tree_of_run (movable.trees trees) done') unread
          rw [done']
          change Model.ofBundled (out.withEntry name entry) = .ok m ↔ Model.ofBundled out = .ok m
          rw [sameModel]
      | error failure =>
          cases done' : (b.movedOut place name).run with
          | ok out' =>
              obtain ⟨out, entry, done'', _⟩ := back out' done'
              rw [done] at done''
              cases done''
          | error failure' =>
              constructor
              · intro impossible
                cases impossible
              · intro impossible
                cases impossible

/-- A parameter whose schema refers to a node that contains itself, through another document and back. -/
private def parameter : Value := .record
  [("name", .text "limit"), ("in", .text "query"), ("schema", Reference.value "more.json#/x")]

private def node (next : Value) : Value := .record [("type", .text "object"), ("next", next)]

private def petsWith (parameter node : Value) : Value := .record
  [("info", .record [("title", .text "Pets")]),
   ("paths", .record [("/pets", .record [("get", .record [("parameters", .list [parameter])])])]),
   ("components", .record [("node", node)])]

private def pets : Bundle where
  library := .ofDocuments
    [("/more.json", .record [("x", node (Reference.value "api.json#/components/node"))])]
  workdir := []
  rootKey := "/api.json"
  root := petsWith parameter (node (Reference.value "more.json#/x"))

private def parameterPlace : Value.Location :=
  [.key (.text "paths"), .key (.text "/pets"), .key (.text "get"), .key (.text "parameters"),
    .index 0]

private theorem pets_fits : pets.Fits ∧ (pets.movedOut parameterPlace "limit").Fits := by
  constructor
  · exact .of_hasRoom (by decide) (show pets.start.hasRoom 20 _ = true by with_unfolding_all rfl)
  · exact .of_hasRoom (by decide)
      (show (pets.movedOut parameterPlace "limit").start.hasRoom 20 _ = true by
        with_unfolding_all rfl)

private theorem pets_movesOut : pets.MovesOut parameterPlace "limit" parameter := by
  have trees : pets.Trees := .of_documents rfl (by decide) (by decide)
  have points : pets.points = [["components", "node"]] := by with_unfolding_all rfl
  refine { trees := trees, unmarked := by decide, movable := ?_, sameRoom := ?_ }
  · refine .of_points rfl rfl (by decide) rfl (by decide) rfl ?_
    intro names inside
    rw [points] at inside
    rw [List.mem_singleton.1 inside]
    refine ⟨by decide, "components", ["node"], rfl, ?_⟩
    intro step taken same
    cases taken
    simp [parameterPlace] at same
  · obtain ⟨fits, fitsAfter⟩ := pets_fits
    exact ⟨fun _ => fitsAfter, fun _ => fits⟩

private theorem pets_run : ∃ out m, pets.run = .ok out ∧ Model.ofBundled out = .ok m := by
  let kept : Value := Reference.value "more.json#/x"
  let limit : Value := .record
    [("name", .text "limit"), ("in", .text "query"), ("schema", node (node kept))]
  have done : pets.run = .ok (petsWith limit (node (node (node kept)))) :=
    Bundle.run_of_resolveIn pets_movesOut.trees pets_fits.1
      (show pets.start.resolveIn 30 = _ by with_unfolding_all rfl)
  exact ⟨_, _, done, by with_unfolding_all rfl⟩

theorem pets_extractIn_movedOut :
    "limit" ∉ readEntries ∧
    (∀ key, Reference.documentKey? [] (some "api.json") = some key →
      (Bundle.mk pets.library [] key pets.root).MovesOut parameterPlace "limit" parameter) ∧
    ∃ m, Model.extractIn pets.library [] (pets.root.movedOut parameterPlace "limit")
      (some "api.json") = .ok m ∧ Model.extractIn pets.library [] pets.root (some "api.json") = .ok m := by
  have isKey : Reference.documentKey? [] (some "api.json") = some "/api.json" := by
    with_unfolding_all rfl
  have moves : ∀ key, Reference.documentKey? [] (some "api.json") = some key →
      (Bundle.mk pets.library [] key pets.root).MovesOut parameterPlace "limit" parameter := by
    intro key same
    rw [isKey] at same
    cases same
    exact pets_movesOut
  obtain ⟨out, m, done, isModel⟩ := pets_run
  have extracted := Model.extractIn_of_run isKey done isModel
  refine ⟨by decide, moves, m, ?_, extracted⟩
  exact (Model.extractIn_movedOut (by decide) moves m).2 extracted

/-- Whether moving a part out never changes the model, wherever it is allowed. -/
def KeepsModel (allowed : Bundle → Value.Location → String → Value → Prop) : Prop :=
  ∀ (library : Library) (workdir : Place) (source : Option String) (document t : Value)
    (place : Value.Location) (name : String), name ∉ readEntries →
    (∀ key, Reference.documentKey? workdir source = some key →
      allowed ⟨library, workdir, key, document⟩ place name t) →
    ∀ m, Model.extractIn library workdir (document.movedOut place name) source = .ok m ↔
      Model.extractIn library workdir document source = .ok m

/-- A reference, and beside it so many lists that the description is too deep with both in their place. -/
private def aside : Value := .record [("$ref", .text "#/y"), ("deep", Bundle.wrap 450 .null)]

private def slope : Bundle where
  library := .ofDocuments []
  workdir := []
  rootKey := "/api.json"
  root := .record [("a", Bundle.wrap 59 aside), ("paths", .record []), ("y", .int 1)]

private def slopePlace : Value.Location := .key (.text "a") :: List.replicate 59 (.index 0)

set_option maxRecDepth 8000 in
private theorem slope_movable : slope.Trees ∧ slope.Movable slopePlace "f" aside := by
  have points : slope.points = [["y"]] := by with_unfolding_all rfl
  refine ⟨.of_documents rfl (by decide +kernel) (by decide), ?_⟩
  refine .of_points rfl rfl (List.cons_ne_nil _ _) rfl (by decide) rfl ?_
  intro names inside
  rw [points] at inside
  rw [List.mem_singleton.1 inside]
  refine ⟨by decide, "y", [], rfl, ?_⟩
  intro step taken same
  cases taken
  simp [slopePlace] at same

set_option maxRecDepth 8000 in
private theorem slope_run : slope.run = .error .unexpected ∧
    ∃ out, (slope.movedOut slopePlace "f").run = .ok out ∧
      Model.ofBundled out = .ok ⟨[], none, none, none⟩ := by
  obtain ⟨trees, movable⟩ := slope_movable
  have deep : Bundle.maxDepth < slope.root.depth := by decide +kernel
  have fits : (slope.movedOut slopePlace "f").Fits := .of_hasRoom (by decide +kernel)
    (show (slope.movedOut slopePlace "f").start.hasRoom 100 _ = true by with_unfolding_all rfl)
  let out : Value := .record
    [("a", Bundle.wrap 59 (.int 1)), ("paths", .record []), ("y", .int 1), ("f", .int 1)]
  have done : (slope.movedOut slopePlace "f").run = .ok out :=
    Bundle.run_of_resolveIn (movable.trees trees) fits
      (show (slope.movedOut slopePlace "f").start.resolveIn 100 = _ by with_unfolding_all rfl)
  exact ⟨Bundle.run_of_deep deep, out, done, by with_unfolding_all rfl⟩

/-- In a directory whose name ends in the mark, a reference with the absolute name of the new entry. -/
private def marked : Bundle where
  library := .ofDocuments
    [("/w", .record [("b#", .record [("f", .list [.record [("url", .text "http://h")]])])])]
  workdir := []
  rootKey := "/w#/b"
  root := .record [("servers", Reference.value "../w#/b#/f"), ("paths", .record [])]

private def serversPlace : Value.Location := [.key (.text "servers")]

private theorem marked_movable :
    marked.Trees ∧ marked.Movable serversPlace "f" (Reference.value "../w#/b#/f") := by
  have points : marked.points = [] := by with_unfolding_all rfl
  refine ⟨.of_documents rfl (by decide) (by decide), ?_⟩
  refine .of_points rfl rfl (List.cons_ne_nil _ _) rfl (by decide) rfl ?_
  intro names inside
  rw [points] at inside
  cases inside

private theorem marked_fits : marked.Fits ∧ (marked.movedOut serversPlace "f").Fits := by
  constructor
  · exact .of_hasRoom (by decide) (show marked.start.hasRoom 10 _ = true by with_unfolding_all rfl)
  · exact .of_hasRoom (by decide)
      (show (marked.movedOut serversPlace "f").start.hasRoom 10 _ = true by with_unfolding_all rfl)

private theorem marked_run :
    (∃ out, marked.run = .ok out ∧ Model.ofBundled out = .ok ⟨[], none, none, some "http://h"⟩) ∧
    ∃ out, (marked.movedOut serversPlace "f").run = .ok out ∧
      Model.ofBundled out = .ok ⟨[], none, none, none⟩ := by
  obtain ⟨trees, movable⟩ := marked_movable
  obtain ⟨fits, fitsAfter⟩ := marked_fits
  let servers : Value := .list [.record [("url", .text "http://h")]]
  have done : marked.run = .ok (.record [("servers", servers), ("paths", .record [])]) :=
    Bundle.run_of_resolveIn trees fits
      (show marked.start.resolveIn 10 = _ by with_unfolding_all rfl)
  have doneAfter : (marked.movedOut serversPlace "f").run = .ok (.record
      [("servers", Reference.value "../w#/b#/f"), ("paths", .record []), ("f", servers)]) :=
    Bundle.run_of_resolveIn (movable.trees trees) fitsAfter
      (show (marked.movedOut serversPlace "f").start.resolveIn 10 = _ by with_unfolding_all rfl)
  constructor
  · exact ⟨_, done, by with_unfolding_all rfl⟩
  · exact ⟨_, doneAfter, by with_unfolding_all rfl⟩

/--
With room for all steps only after the part was moved, the model can be lost in its place; and with
the mark in the key of the description it can be another one.
-/
theorem not_keepsModel :
    (¬ KeepsModel fun b place name t => b.Trees ∧ Unmarked b.rootKey ∧ b.Movable place name t) ∧
    (¬ KeepsModel fun b place name t => b.Trees ∧ b.Movable place name t ∧ b.Fits ∧
      (b.movedOut place name).Fits) := by
  constructor
  · intro always
    have isKey : Reference.documentKey? [] (some "api.json") = some "/api.json" := by
      with_unfolding_all rfl
    obtain ⟨trees, movable⟩ := slope_movable
    obtain ⟨lost, out, done, isModel⟩ := slope_run
    have same := always slope.library [] (some "api.json") slope.root aside slopePlace "f" (by decide) (by
      intro key isKey'
      rw [isKey] at isKey'
      cases isKey'
      exact ⟨trees, by decide, movable⟩)
    have found := (same _).1 (Model.extractIn_of_run isKey done isModel)
    unfold Model.extractIn bundleIn at found
    rw [isKey] at found
    change slope.run >>= Model.ofBundled = _ at found
    rw [lost] at found
    cases found
  · intro always
    have isKey : Reference.documentKey? [] (some "w#/b") = some "/w#/b" := by with_unfolding_all rfl
    obtain ⟨trees, movable⟩ := marked_movable
    obtain ⟨fits, fitsAfter⟩ := marked_fits
    obtain ⟨⟨out, done, isModel⟩, ⟨out', done', isModel'⟩⟩ := marked_run
    have same := always marked.library [] (some "w#/b") marked.root _ _ "f" (by decide) (by
      intro key isKey'
      rw [isKey] at isKey'
      cases isKey'
      exact ⟨trees, movable, fits, fitsAfter⟩)
    have before := Model.extractIn_of_run isKey done isModel
    have after := (same _).1 (Model.extractIn_of_run isKey done' isModel')
    cases before.symm.trans after

end Api

end QueryHooks
