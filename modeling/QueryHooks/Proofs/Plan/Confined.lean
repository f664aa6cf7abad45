import QueryHooks.Proofs.Api.MovedOut
import QueryHooks.Proofs.Plan.Places

/-!
Which plans stay inside the output directory. Tags come from the description as they are written
there, so a plan with a file for each tag stays inside, with each file in a place of its own, exactly
if the tags allow it.
-/

namespace QueryHooks.Plan

open QueryHooks.Api (Model Operation)
open QueryHooks.Path (Route)

variable {options : Options} {model : Model} {integration : Option Integration}

/-- The file of the hooks of an operation's tag. -/
def hooksFile (options : Options) (model : Model) (op : Operation) : PlannedFile :=
  ⟨Naming.hooksPath op.tag options.extension,
    Render.hooksOfTag op.tag (model.operations.filter (·.tag == op.tag))⟩

theorem mem_plan {op : Operation} (byTag : options.groupByTag = true) (known : op ∈ model.operations) :
    hooksFile options model op ∈ plan options model integration := by
  have grouped : (op.tag, model.operations.filter (·.tag == op.tag)) ∈ model.groups :=
    Model.mem_groups_iff.2 ⟨List.mem_map_of_mem known, rfl⟩
  have inside : hooksFile options model op ∈
      hookFiles model.groups options.groupByTag options.extension := by
    rw [hookFiles, byTag, if_pos rfl]
    exact List.mem_map.2 ⟨_, grouped, rfl⟩
  exact List.mem_append_left _ (List.mem_append_right _ inside)

theorem place_hooksFile {op : Operation} (free : '/' ∉ options.extension.toList) (workdir : Place)
    (outDir : String) :
    (hooksFile options model op).place workdir outDir =
      Route.endFrom ⟨(tagRoute op.tag).up, hookNames options.extension op.tag⟩
        ((Path.ofText outDir).resolve workdir) := by
  have route : (hooksFile options model op).route =
      ⟨(tagRoute op.tag).up, hookNames options.extension op.tag⟩ := route_hooksPath free
  have relative : (Path.ofText (hooksFile options model op).path).isAbsolute = false :=
    relative_hooksPath op.tag options.extension
  rw [PlannedFile.place_eq relative, route]

theorem not_climbs_of_below {op : Operation} (free : '/' ∉ options.extension.toList)
    (below : ∀ workdir outDir, ∃ inner, (hooksFile options model op).place workdir outDir =
      (Path.ofText outDir).resolve workdir ++ inner) :
    ¬ Climbs op.tag := by
  intro climbs
  obtain ⟨here, outside⟩ := Route.exists_not_below
    (show 0 < (Route.mk (tagRoute op.tag).up (hookNames options.extension op.tag)).up from climbs)
  have stays : (Path.ofText ".").resolve here = here := rfl
  obtain ⟨inner, whole⟩ := below here "."
  rw [place_hooksFile free, stays] at whole
  exact outside ⟨inner, whole.symm⟩

theorem tag_eq_of_place_eq {a b : Operation} (same : hooksFile options model a = hooksFile options model b) :
    a.tag = b.tag := by
  have path : Naming.hooksPath a.tag options.extension = Naming.hooksPath b.tag options.extension :=
    congrArg PlannedFile.path same
  have whole (tag : String) :
      Naming.hooksPath tag options.extension = "hooks/" ++ tag ++ ".generated." ++ options.extension := rfl
  rwa [whole, whole, String.append_left_inj, String.append_left_inj, String.append_right_inj] at path

theorem confined_of_spread (free : '/' ∉ options.extension.toList)
    (spread : options.groupByTag = true → TagsSpread model) (workdir : Place) (outDir : String) :
    Confined workdir outDir (plan options model integration) := by
  refine .of_descends ?_ (nodup_names options model integration free spread) workdir outDir
  have known := (sublist_stems options integration).subset
  intro file inside
  have path : file.path ∈ (plan options model integration).map (·.path) := List.mem_map_of_mem inside
  rw [paths_plan, List.mem_append, List.mem_append] at path
  obtain (core | hooks) | last := path
  · obtain ⟨stem, within, same⟩ := List.mem_map.1 core
    exact descends_stem free (known (List.mem_append_left _ (List.mem_append_left _ within))) same.symm
  · rw [hookPaths] at hooks
    cases mode : options.groupByTag with
    | false =>
        rw [mode, if_neg (by decide), List.mem_singleton] at hooks
        exact descends_stem free (by decide) hooks
    | true =>
        rw [mode, if_pos rfl] at hooks
        obtain ⟨group, grouped, same⟩ := List.mem_map.1 hooks
        obtain ⟨op, declared, tagged⟩ := Model.mem_tags_iff.1 (List.mem_map_of_mem grouped)
        exact descends_hooks free same.symm (tagged ▸ (spread mode).stay op declared)
  · obtain ⟨stem, within, same⟩ := List.mem_map.1 last
    exact descends_stem free (known (List.mem_append_right _ within)) same.symm

theorem spread_of_confined (free : '/' ∉ options.extension.toList) (byTag : options.groupByTag = true)
    (confined : ∀ workdir outDir, Confined workdir outDir (plan options model integration)) :
    TagsSpread model := by
  have stay : ∀ op ∈ model.operations, ¬ Climbs op.tag := by
    intro op known
    have below : ∀ workdir outDir, ∃ inner, (hooksFile options model op).place workdir outDir =
        (Path.ofText outDir).resolve workdir ++ inner := by
      intro workdir outDir
      obtain ⟨inner, -, whole⟩ := (confined workdir outDir).below _ (mem_plan byTag known)
      exact ⟨inner, whole⟩
    exact not_climbs_of_below free below
  refine ⟨stay, fun a knownA b knownB same => ?_⟩
  have level : (tagRoute a.tag).up = (tagRoute b.tag).up := by
    rw [Nat.eq_zero_of_not_pos (stay a knownA), Nat.eq_zero_of_not_pos (stay b knownB)]
  have place : (hooksFile options model a).place [] "." = (hooksFile options model b).place [] "." := by
    rw [place_hooksFile free, place_hooksFile free, level, hookNames_eq_iff.2 same]
  exact tag_eq_of_place_eq
    (List.inj_on_of_nodup_map (confined [] ".").apart (mem_plan byTag knownA) (mem_plan byTag knownB) place)

/-- A tag without slashes names a file directly in the directory of hooks. -/
theorem tagRoute_of_not_mem {tag : String} (free : '/' ∉ tag.toList) :
    tagRoute tag = ⟨0, ["hooks"]⟩ ∧ tagName tag = tag := by
  have pieces : Path.split tag = [tag] := by
    rw [Path.split, Text.splitOn_of_not_mem free, List.map_singleton, String.ofList_toList]
  rw [tagRoute, tagDirectories, tagName, pieces]
  exact ⟨rfl, rfl⟩

theorem spread_of_not_mem (free : ∀ op ∈ model.operations, '/' ∉ op.tag.toList) : TagsSpread model where
  stay := by
    intro op known climbs
    rw [Climbs, (tagRoute_of_not_mem (free op known)).1] at climbs
    exact Nat.lt_irrefl 0 climbs
  apart := by
    intro a knownA b knownB same
    have ofA := tagRoute_of_not_mem (free a knownA)
    have ofB := tagRoute_of_not_mem (free b knownB)
    rw [tagPlace, tagPlace, ofA.1, ofA.2, ofB.1, ofB.2, List.append_singleton_inj] at same
    exact same.2

private def nested : Model where
  operations := ["pets", "pets/toys", "pets/../shop"].map fun tag =>
    ⟨tag, "list", .get, "/", none, none, [], none, []⟩
  title := none
  version := none
  baseUrl := none

/-- A description whose tags lead above the output directory, and to one place by two ways. -/
private def wandering : Value := .record [("paths", .record [("/", .record
  [("get", .record [("tags", .list [.text "../../index"])]),
   ("put", .record [("tags", .list [.text "pets"])]),
   ("post", .record [("tags", .list [.text "shop/../pets"])])])])]

private def wanderingModel : Model where
  operations :=
    [⟨"../../index", "get", .get, "/", none, none, [], none, []⟩,
     ⟨"shop/../pets", "post", .post, "/", none, none, [], none, []⟩,
     ⟨"pets", "put", .put, "/", none, none, [], none, []⟩]
  title := none
  version := none
  baseUrl := none

private theorem wandering_extractIn :
    Model.extractIn (.ofDocuments []) [] wandering (some "api.json") = .ok wanderingModel := by
  refine Model.extractIn_of_resolveIn wandering 30 (by decide) (by decide) ?room ?done ?model
  case room => with_unfolding_all rfl
  case done => with_unfolding_all rfl
  case model => with_unfolding_all rfl

end QueryHooks.Plan
