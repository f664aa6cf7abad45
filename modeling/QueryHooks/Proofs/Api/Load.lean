import Mathlib
import QueryHooks.Api.Extract
import QueryHooks.Proofs.Api.Reported
import QueryHooks.Proofs.Bundle.Reachability
import QueryHooks.Proofs.Document.Legible
import QueryHooks.Proofs.Reference.Keys

/-!
Loading the model of an API: it gives a model or finds fault with the description, as far as the texts are legible,
the documents are trees within the limits of bundling, and what is taken apart in the description can be.
-/

namespace QueryHooks.Api

variable {world : World} {source : String}

/-- A description and the files that it can refer to. -/
abbrev bundleOf (world : World) (key : String) (document : Value) : Bundle :=
  ⟨.ofWorld world, world.workdir, key, document⟩

/-- Whether a reference leads into the description itself, or to a file that can be read and is a tree. -/
def LeadsToFile (world : World) (key document reference : String) : Prop :=
  ∃ target, Reference.target? world.workdir document reference = some target ∧
    (target.document = key ∨ isUrl target.document = false ∧ Document.IsReadable world target.document ∧
      ∀ v, Document.ofFile world target.document = .ok v → v.IsTree)

/-- Whether a description without references is a mapping in which what is shown or taken apart can be. -/
structure IsPresentable (bundled : Value) : Prop where
  isMap : bundled.isMap = true
  short : bundled.IsShort
  opens : ∀ d ∈ declarations bundled, d.IsOpen

/-- Whether only its faults can keep a description from having a model. -/
structure Suits (world : World) (source : Option String) (document : Value) : Prop where
  tree : document.IsTree
  short : document.IsShort
  near : ∀ key, Reference.documentKey? world.workdir source = some key → (bundleOf world key document).Fits
  leads : ∀ key, Reference.documentKey? world.workdir source = some key →
    ∀ place reference, (bundleOf world key document).Reachable place reference → LeadsToFile world key place reference
  presentable : ∀ bundled, bundle world document source = .ok bundled → IsPresentable bundled

theorem ends_answer {key : String} {document : Value} (tree : document.IsTree) {target : Target}
    (leads : target.document = key ∨ isUrl target.document = false ∧ Document.IsReadable world target.document ∧
      ∀ v, Document.ofFile world target.document = .ok v → v.IsTree) :
    Ends ((bundleOf world key document).answer target.document) Value.IsTree Failure.OfSpec := by
  unfold Bundle.answer
  split
  · exact .ok tree
  · next other =>
      rcases leads with same | ⟨noUrl, readable, trees⟩
      · exact absurd same other
      · change Ends (Library.worldAnswer world target.document) Value.IsTree Failure.OfSpec
        have reported := Document.reported_ofFile readable
        unfold Library.worldAnswer
        rw [Document.load, noUrl]
        split
        · next failure failed => exact .error (reported.failed failure failed)
        · next v found =>
            split
            · exact .ok (trees v found)
            · exact .error ⟨_, rfl⟩

theorem reported_bundle {document : Value} {placed : Option String} {key : String}
    (isKey : Reference.documentKey? world.workdir placed = some key) (suits : Suits world placed document) :
    Reported (bundle world document placed) := by
  rw [bundle, bundleIn, isKey]
  refine Bundle.reported_run (fun place reference reachable => ?_) suits.tree (suits.near key isKey)
  obtain ⟨target, named, leads⟩ := suits.leads key isKey place reference reachable
  exact ⟨target, named, ends_answer suits.tree leads⟩

theorem reported_extract {document : Value} {placed : Option String} {key : String}
    (isKey : Reference.documentKey? world.workdir placed = some key) (suits : Suits world placed document) :
    Reported (Model.extract world document placed) := by
  change Reported (bundle world document placed >>= Model.ofBundled)
  cases isBundled : bundle world document placed with
  | error failure => exact .error ((reported_bundle isKey suits).failed failure isBundled)
  | ok bundled =>
      have presentable := suits.presentable bundled isBundled
      exact Model.reported_ofBundled presentable.isMap presentable.short presentable.opens

/-- The source of a description that was loaded has a key. -/
theorem exists_key {document : Value} (readable : Document.IsReadableRoot world source)
    (loaded : Document.loadRoot world source = .ok document) :
    ∃ key, Reference.documentKey? world.workdir (placed? source) = some key := by
  unfold placed?
  by_cases dash : source = "-"
  · rw [if_pos (beq_iff_eq.2 dash)]
    have nameable : isNameable (Path.ofText "<stdin>").text = true := by decide
    exact ⟨Path.placeText ((Path.ofText "<stdin>").resolve world.workdir),
      show Reference.fileKey? _ _ = _ by rw [Reference.fileKey?, if_pos nameable]⟩
  · rw [if_neg (by simpa using dash)]
    rw [Document.IsReadableRoot, if_neg dash] at readable
    rw [Document.loadRoot, if_neg (by simpa using dash), Document.load, readable.1,
      if_neg (by decide)] at loaded
    have nameable : isNameable source = true := by
      by_contra unnameable
      rw [Document.ofFile, if_pos (by simpa using unnameable)] at loaded
      cases loaded
    exact ⟨_, Reference.documentKey_of_file ⟨nameable, readable.1⟩ dash⟩

theorem result_bind {α β : Type} (first : Noted α) (next : α → Noted β) :
    (first >>= next).result = first.result >>= fun a => (next a).result := by
  change (first.andThen next).result = _
  unfold Noted.andThen
  cases first.result with
  | ok a => rfl
  | error failure => rfl

/-- A description that can be read and suits has a model, or it is at fault. -/
theorem Model.load_reported (readable : Document.IsReadableRoot world source)
    (suits : ∀ document, Document.loadRoot world source = .ok document → Suits world (placed? source) document) :
    (∃ model, (load world source).result = .ok model) ∨
      ∃ problem, (load world source).result = .error (.spec problem) := by
  have reported : Reported (load world source).result := by
    unfold load
    simp only [result_bind]
    cases loaded : Document.loadRoot world source with
    | error failure => exact .error ((Document.reported_loadRoot readable).failed failure loaded)
    | ok document =>
        have suited := suits document loaded
        obtain ⟨key, isKey⟩ := exists_key readable loaded
        change Reported (Document.version document >>= fun _ => Model.extract world document (placed? source) >>= _)
        apply (Document.reported_version suited.short).bind
        intro version
        exact (reported_extract isKey suited).bind fun model => .ok model
  cases loaded : (load world source).result with
  | ok model => exact .inl ⟨model, rfl⟩
  | error failure =>
      obtain ⟨problem, rfl⟩ := reported.failed failure loaded
      exact .inr ⟨problem, rfl⟩

private def pathText : String := "\x7b\"get\": \x7b\"tags\": [\"x\"]\x7d\x7d"

/-- A description on standard input, in YAML, that refers to a file in JSON for one of its paths. -/
private def outlined : World where
  disk := ⟨[(["w"], .directory), (["w", "a.json"], .file (Text.Utf8.encode pathText.toList))]⟩
  workdir := ["w"]
  stdin := "openapi: 3.1.0\npaths:\n  /a:\n    $ref: a.json\n"
  responses := []
  environment := []

private def outline (path : Value) : Value :=
  .record [("openapi", .text "3.1.0"), ("paths", .record [("/a", path)])]

private def outlinedPath : Value := .record [("get", .record [("tags", .list [.text "x"])])]

private def outlinedBundle : Bundle := bundleOf outlined "/w/<stdin>" (outline (Reference.value "a.json"))

private def outlinedTree : Yaml.Tree where
  graph := ⟨#[⟨.mapping, .mapping [(1, 2), (3, 4)]⟩, ⟨.text, .scalar "openapi"⟩, ⟨.text, .scalar "3.1.0"⟩,
    ⟨.text, .scalar "paths"⟩, ⟨.mapping, .mapping [(5, 6)]⟩, ⟨.text, .scalar "/a"⟩, ⟨.mapping, .mapping [(7, 8)]⟩,
    ⟨.text, .scalar "$ref"⟩, ⟨.text, .scalar "a.json"⟩]⟩
  root := 0

private theorem outlined_tree : Yaml.Tree.ofText? outlined.stdin.toList = .ok (some outlinedTree) := by cbv

private theorem outlined_legible : Yaml.IsLegible outlined.stdin.toList where
  within := .of_not_mem (by decide) (by decide)
  nests := by cbv
  denotes t found := by
    cases outlined_tree.symm.trans found
    simp [Yaml.Graph.Denotes, Yaml.Node.Denotes, Yaml.Tag.IsMetBy, Yaml.Tag.isOfText, outlinedTree]

private theorem outlined_root : Document.loadRoot outlined "-" = .ok (outline (Reference.value "a.json")) := by
  have read : Yaml.read outlined.stdin.toList = .ok (outline (Reference.value "a.json")) := by
    rw [Yaml.read, outlined_tree]
    cbv
  have noJson : Json.read outlined.stdin.toList = .error (.malformed .missingValue 0) := by with_unfolding_all rfl
  have notBlank : Text.isBlankText outlined.stdin = false := by decide
  rw [Document.loadRoot, if_pos (beq_self_eq_true "-"), Document.ofInput, notBlank, if_neg (by decide), Document.parse]
  simp only [noJson, Document.parseYaml, read]
  rfl

private theorem outlined_trees : outlinedBundle.Trees where
  root := rfl
  library key document found := by
    have known := Library.mem_worldKeys_of_answer found
    have keys : Library.worldKeys outlined = ["/w/a.json"] := by with_unfolding_all rfl
    rw [keys] at known
    cases List.mem_singleton.1 known
    have same : outlinedBundle.library.answer "/w/a.json" = .ok outlinedPath := by with_unfolding_all rfl
    cases found.symm.trans same
    rfl

private theorem outlined_fits : outlinedBundle.Fits :=
  .of_hasRoom (by decide) (show outlinedBundle.start.hasRoom 20 _ = true by with_unfolding_all rfl)

private theorem outlined_reachable {place reference : String} (reachable : outlinedBundle.Reachable place reference) :
    place = "/w/<stdin>" ∧ reference = "a.json" := by
  induction reachable with
  | start inside => exact ⟨rfl, List.mem_singleton.1 inside.mem_references⟩
  | behind _ lands inside ih =>
      obtain ⟨rfl, rfl⟩ := ih
      have named : Reference.target? outlinedBundle.workdir "/w/<stdin>" "a.json" = some ⟨"/w/a.json", ""⟩ := by
        with_unfolding_all rfl
      have part : outlinedBundle.part "a.json" ⟨"/w/a.json", ""⟩ = .ok outlinedPath := by with_unfolding_all rfl
      cases lands.1.symm.trans named
      cases lands.2.symm.trans part
      cases inside.mem_references

private theorem outlined_bundled :
    bundle outlined (outline (Reference.value "a.json")) none = .ok (outline outlinedPath) := by
  have isKey : Reference.documentKey? outlined.workdir none = some "/w/<stdin>" := by with_unfolding_all rfl
  rw [bundle, bundleIn, isKey]
  exact Bundle.run_of_resolveIn outlined_trees outlined_fits
    (show outlinedBundle.start.resolveIn 20 = _ by with_unfolding_all rfl)

private theorem outlined_leads {place reference : String} (reachable : outlinedBundle.Reachable place reference) :
    LeadsToFile outlined "/w/<stdin>" place reference := by
  obtain ⟨rfl, rfl⟩ := outlined_reachable reachable
  have found : outlined.disk.find outlined.workdir (.ofText "/w/a.json") =
      .ok (["w", "a.json"], .file (Text.Utf8.encode pathText.toList)) := by with_unfolding_all rfl
  have isText : Document.textOf (Text.Utf8.encode pathText.toList) = .ok pathText := by with_unfolding_all rfl
  refine ⟨⟨"/w/a.json", ""⟩, by with_unfolding_all rfl, .inr ⟨by decide, ⟨?reached, ?legible⟩, ?tree⟩⟩
  case reached =>
    intro refusal refused
    cases found.symm.trans refused
  case legible =>
    intro place octets text there isThis
    cases found.symm.trans there
    cases isText.symm.trans isThis
    have json : Json.IsWithin false 0 pathText.toList := .of_length (by decide) (by decide)
    refine ⟨fun _ => json, fun isYaml => ?_⟩
    have hint : Document.hintOfPath (.ofText "/w/a.json") = .json := by with_unfolding_all rfl
    rw [hint] at isYaml
    rcases isYaml with impossible | ⟨impossible, -⟩ <;> cases impossible
  case tree =>
    intro v loaded
    have same : Document.ofFile outlined "/w/a.json" = .ok outlinedPath := by with_unfolding_all rfl
    cases same.symm.trans loaded
    rfl

private theorem outlined_presentable : IsPresentable (outline outlinedPath) where
  isMap := rfl
  short := rfl
  opens d inside := by
    have all : declarations (outline outlinedPath) = [⟨"/a", outlinedPath, .get⟩] := by with_unfolding_all rfl
    rw [all] at inside
    cases List.mem_singleton.1 inside
    exact ⟨fun _ => rfl, nofun, nofun⟩

theorem outlined_reported : Document.IsReadableRoot outlined "-" ∧
    (∀ document, Document.loadRoot outlined "-" = .ok document → Suits outlined (placed? "-") document) ∧
    ((∃ model, (Model.load outlined "-").result = .ok model) ∨
      ∃ problem, (Model.load outlined "-").result = .error (.spec problem)) := by
  have readable : Document.IsReadableRoot outlined "-" := by
    have json : Json.IsWithin false 0 outlined.stdin.toList := .of_length (by decide) (by decide)
    rw [Document.IsReadableRoot, if_pos rfl]
    exact ⟨fun _ => json, fun _ => outlined_legible⟩
  have suits : ∀ document, Document.loadRoot outlined "-" = .ok document → Suits outlined (placed? "-") document := by
    intro document loaded
    cases outlined_root.symm.trans loaded
    have isKey : Reference.documentKey? outlined.workdir (placed? "-") = some "/w/<stdin>" := by with_unfolding_all rfl
    refine ⟨rfl, rfl, ?near, ?leads, ?presentable⟩
    case near =>
      intro key same
      cases isKey.symm.trans same
      exact outlined_fits
    case leads =>
      intro key same place reference reachable
      cases isKey.symm.trans same
      exact outlined_leads reachable
    case presentable =>
      intro bundled done
      cases outlined_bundled.symm.trans done
      exact outlined_presentable
  exact ⟨readable, suits, Model.load_reported readable suits⟩

/-- What has a model is a mapping in which all that is taken apart can be. -/
theorem Model.opens_of_load {model : Model} (done : (load world source).result = .ok model) :
    ∃ document bundled, Document.loadRoot world source = .ok document ∧
      bundle world document (placed? source) = .ok bundled ∧
      bundled.isMap = true ∧ ∀ d ∈ declarations bundled, d.IsOpen := by
  unfold load at done
  simp only [result_bind] at done
  obtain ⟨_, _, done⟩ := exists_of_bind done
  obtain ⟨document, loaded, done⟩ := exists_of_bind done
  obtain ⟨version, _, done⟩ := exists_of_bind done
  obtain ⟨_, _, done⟩ := exists_of_bind done
  obtain ⟨made, extracted, _⟩ := exists_of_bind done
  obtain ⟨bundled, isBundled, isModel⟩ := exists_of_bind extracted
  exact ⟨document, bundled, loaded, isBundled, opens_of_ofBundled isModel⟩

private def numberedText : String :=
  "\x7b\"openapi\": \"3.0.3\", \"info\": \x7b\"title\": \"T\", \"version\": \"1\"\x7d, " ++
    "\"paths\": \x7b\"/a\": \x7b\"get\": \x7b\"tags\": 5\x7d\x7d\x7d\x7d"

/-- A description whose tags are a number. -/
private def numbered : World where
  disk := ⟨[(["w"], .directory), (["w", "api.json"], .file (Text.Utf8.encode numberedText.toList))]⟩
  workdir := ["w"]
  stdin := ""
  responses := []
  environment := []

private def numberedDocument : Value := .record [("openapi", .text "3.0.3"),
  ("info", .record [("title", .text "T"), ("version", .text "1")]),
  ("paths", .record [("/a", .record [("get", .record [("tags", .int 5)])])])]

set_option maxRecDepth 8000 in
private theorem numbered_loaded : Document.load numbered "api.json" = .ok numberedDocument ∧
    Document.load numbered "/w/api.json" = .ok numberedDocument := by
  constructor <;> with_unfolding_all rfl

private theorem numbered_bundled : bundle numbered numberedDocument (some "api.json") = .ok numberedDocument := by
  have isKey : Reference.documentKey? numbered.workdir (some "api.json") = some "/w/api.json" := by
    with_unfolding_all rfl
  have keys : Library.worldKeys numbered = ["/w/api.json"] := by with_unfolding_all rfl
  have trees : (bundleOf numbered "/w/api.json" numberedDocument).Trees := by
    refine ⟨rfl, fun key document found => ?_⟩
    have known := Library.mem_worldKeys_of_answer found
    rw [keys] at known
    cases List.mem_singleton.1 known
    change Library.worldAnswer numbered "/w/api.json" = .ok document at found
    rw [Library.worldAnswer, numbered_loaded.2, keys] at found
    cases found
    rfl
  rw [bundle, bundleIn, isKey]
  exact Bundle.run_of_resolveIn trees
    (.of_hasRoom (by decide) (show Bundle.Spot.hasRoom 20 _ _ = true by with_unfolding_all rfl))
    (show Bundle.Spot.resolveIn 20 _ = _ by with_unfolding_all rfl)

/-- A description can be kept from a model by no fault that is reported: tags that are a number have no first one. -/
theorem exists_load_unexpected : (Model.load numbered "api.json").result = .error .unexpected := by
  have loaded : Document.loadRoot numbered "api.json" = .ok numberedDocument := numbered_loaded.1
  have version : Document.version numberedDocument = .ok "3.0.3" := by with_unfolding_all rfl
  have extracted : Model.extract numbered numberedDocument (some "api.json") = .error .unexpected := by
    change (bundle numbered numberedDocument (some "api.json") >>= Model.ofBundled) = _
    rw [numbered_bundled]
    with_unfolding_all rfl
  have placed : placed? "api.json" = some "api.json" := rfl
  unfold Model.load
  simp only [result_bind, Noted.quietly, loaded, placed]
  simp only [Noted.say, bind, Except.bind, version, extracted]

end QueryHooks.Api
