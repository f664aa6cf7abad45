import Mathlib.Data.List.Nodup
import QueryHooks.Proofs.Api.Grouping
import QueryHooks.Proofs.Path.Route
import QueryHooks.Proofs.Text.Pieces
import QueryHooks.Write

/-!
Where planned files lie. The files that every plan has lie directly in the output directory. The file
of a tag lies where the tag, as it is written, leads from the directory `hooks`; so it is the tags
that decide whether all files lie inside the output directory, and each in a place of its own.
-/

namespace QueryHooks

open QueryHooks.Api (Model)
open QueryHooks.Path (Route)

/-- The place of a planned file, seen from a working directory. -/
def PlannedFile.place (workdir : Place) (outDir : String) (file : PlannedFile) : Place :=
  (Write.target outDir file).resolve workdir

/-- The way to a planned file from the output directory. -/
def PlannedFile.route (file : PlannedFile) : Route := (Path.ofText file.path).route

theorem PlannedFile.place_eq {file : PlannedFile} (relative : (Path.ofText file.path).isAbsolute = false)
    (workdir : Place) (outDir : String) :
    file.place workdir outDir = file.route.endFrom ((Path.ofText outDir).resolve workdir) := by
  rw [place, Write.target, Path.join, relative, if_neg (by decide), Path.resolve, List.foldl_append,
    Route.foldl_follow (Path.ofText file.path).segments]
  rfl

/-- Whether a planned file lies below the output directory, wherever that is. -/
structure PlannedFile.Descends (file : PlannedFile) : Prop where
  relative : (Path.ofText file.path).isAbsolute = false
  level : file.route.up = 0
  enters : file.route.names ≠ []

theorem PlannedFile.Descends.place_eq {file : PlannedFile} (descends : file.Descends) (workdir : Place)
    (outDir : String) :
    file.place workdir outDir = (Path.ofText outDir).resolve workdir ++ file.route.names := by
  rw [PlannedFile.place_eq descends.relative, Route.endFrom, descends.level, Nat.sub_zero,
    List.take_length]

/-- Whether planned files all lie strictly below the output directory, no two in one place. -/
structure Confined (workdir : Place) (outDir : String) (files : List PlannedFile) : Prop where
  below : ∀ file ∈ files, ∃ inner ≠ [],
    file.place workdir outDir = (Path.ofText outDir).resolve workdir ++ inner
  apart : (files.map (·.place workdir outDir)).Nodup

theorem Confined.of_descends {files : List PlannedFile} (descends : ∀ file ∈ files, file.Descends)
    (distinct : (files.map (·.route.names)).Nodup) (workdir : Place) (outDir : String) :
    Confined workdir outDir files where
  below := fun file inside =>
    ⟨file.route.names, (descends file inside).enters, (descends file inside).place_eq workdir outDir⟩
  apart := by
    have places : files.map (·.place workdir outDir) =
        (files.map (·.route.names)).map ((Path.ofText outDir).resolve workdir ++ ·) := by
      rw [List.map_map]
      exact List.map_congr_left fun file inside => (descends file inside).place_eq workdir outDir
    rw [places]
    exact distinct.map fun _ _ same => List.append_cancel_left same

namespace Plan

variable {tag extension : String}

/-- The directories that a tag names: its segments before the last, without empty ones and `.`. -/
def tagDirectories (tag : String) : List String :=
  (Path.split tag).dropLast.filter fun segment => segment != "" && segment != "."

/-- The text of a tag after its last slash. -/
def tagName (tag : String) : String := (Path.split tag).getLast?.getD ""

def tagRoute (tag : String) : Route := Route.ofSegments ("hooks" :: tagDirectories tag)

/-- Whether a tag leads out of the directory that holds `hooks`. -/
def Climbs (tag : String) : Prop := 0 < (tagRoute tag).up

instance (tag : String) : Decidable (Climbs tag) := inferInstanceAs (Decidable (0 < _))

/-- Where a tag leads inside the output directory, if it does not climb. -/
def tagPlace (tag : String) : List String := (tagRoute tag).names ++ [tagName tag]

/-- The ending of the files of hooks. -/
def hooksEnding (extension : String) : String := ".generated." ++ extension

theorem not_mem_dots {name : String} (long : 2 < name.length) : name ∉ ["", ".", ".."] := by
  intro inside
  have short : ∀ dots ∈ ["", ".", ".."], dots.length ≤ 2 := by decide
  have := short _ inside
  omega

theorem length_hooksEnding (name extension : String) : 2 < (name ++ hooksEnding extension).length := by
  have whole : (name ++ hooksEnding extension).length =
      name.length + (".generated.".length + extension.length) := by
    rw [String.length_append, hooksEnding, String.length_append]
  have long : ".generated.".length = 11 := rfl
  omega

/-- The file of a tag: its segments are those of the tag, with an ending on the last. -/
theorem segments_hooksPath (free : '/' ∉ extension.toList) :
    (Path.ofText (Naming.hooksPath tag extension)).segments =
      "hooks" :: tagDirectories tag ++ [tagName tag ++ hooksEnding extension] := by
  have endingFree : '/' ∉ (hooksEnding extension).toList := by
    have first : '/' ∉ ".generated.".toList := by decide
    rw [hooksEnding, String.toList_append, List.mem_append]
    exact not_or.2 ⟨first, free⟩
  have chars : (Naming.hooksPath tag extension).toList =
      "hooks".toList ++ '/' :: (tag.toList ++ (hooksEnding extension).toList) := by
    have whole : Naming.hooksPath tag extension = "hooks/" ++ tag ++ ".generated." ++ extension := rfl
    have first : "hooks/".toList = "hooks".toList ++ ['/'] := rfl
    rw [whole, hooksEnding]
    simp only [String.toList_append, first, List.append_assoc, List.cons_append, List.nil_append]
  have last : tagName tag = String.ofList ((Text.splitOn '/' tag.toList).getLast?.getD []) := by
    rw [tagName, Path.split, List.getLast?_map]
    cases (Text.splitOn '/' tag.toList).getLast? <;> rfl
  have pieces : Path.split (Naming.hooksPath tag extension) =
      "hooks" :: ((Path.split tag).dropLast ++ [tagName tag ++ hooksEnding extension]) := by
    rw [Path.split, chars, Text.splitOn_append_mark (by decide), Text.splitOn_append endingFree,
      List.map_cons, List.map_append, List.map_singleton, String.ofList_append, ← last,
      List.map_dropLast, String.ofList_toList, String.ofList_toList]
    rfl
  have kept : tagName tag ++ hooksEnding extension ∉ ["", ".", ".."] :=
    not_mem_dots (length_hooksEnding _ extension)
  simp only [List.mem_cons, not_or] at kept
  rw [Path.ofText, pieces, List.filter_cons_of_pos (by decide), List.filter_append,
    List.filter_cons_of_pos (by simp [kept]), List.filter_nil]
  rfl

/-- The names that lead to the file of a tag. -/
def hookNames (extension tag : String) : List String :=
  (tagRoute tag).names ++ [tagName tag ++ hooksEnding extension]

theorem route_hooksPath (free : '/' ∉ extension.toList) :
    (Path.ofText (Naming.hooksPath tag extension)).route =
      ⟨(tagRoute tag).up, hookNames extension tag⟩ := by
  have kept : tagName tag ++ hooksEnding extension ∉ ["", ".", ".."] :=
    not_mem_dots (length_hooksEnding _ extension)
  simp only [List.mem_cons, not_or] at kept
  rw [Path.route, segments_hooksPath free, Route.ofSegments_concat, Route.step_name kept.2.2.1]
  rfl

/-- The names of the files that are not for one tag, up to their extension. -/
def stems : List String :=
  ["client.", "queryKeys.", "invalidate.", "types.", "hooks.generated.", "openapi-ts.config."]

theorem route_stem {stem : String} (known : stem ∈ stems) (free : '/' ∉ extension.toList) :
    (Path.ofText (stem ++ extension)).route = ⟨0, [stem ++ extension]⟩ := by
  have ofStem : '/' ∉ stem.toList ∧ 2 < stem.length := by
    revert stem
    decide
  have pieces : Path.split (stem ++ extension) = [stem ++ extension] := by
    rw [Path.split, Text.splitOn_of_not_mem, List.map_singleton, String.ofList_toList]
    rw [String.toList_append, List.mem_append]
    exact not_or.2 ⟨ofStem.1, free⟩
  have kept : stem ++ extension ∉ ["", ".", ".."] := by
    refine not_mem_dots ?_
    have := String.length_append stem extension
    omega
  simp only [List.mem_cons, not_or] at kept
  rw [Path.route, Path.ofText, pieces, List.filter_cons_of_pos (by simp [kept]), List.filter_nil]
  exact Route.step_name kept.2.2.1

/-- A path that starts with the first character of one of its parts is relative if that is no slash. -/
theorem isAbsolute_append {start rest : String} (begins : start ≠ "" ∧ start.toList.head? ≠ some '/') :
    (Path.ofText (start ++ rest)).isAbsolute = false := by
  have origin : Path.originOf (start ++ rest).toList = .relative := by
    rw [String.toList_append]
    obtain ⟨some, noSlash⟩ := begins
    cases chars : start.toList with
    | nil => exact absurd (String.toList_eq_nil_iff.1 chars) some
    | cons c others =>
        rw [chars] at noSlash
        have other : c ≠ '/' := fun same => noSlash (congrArg Option.some same)
        rw [List.cons_append]
        unfold Path.originOf
        split <;> simp_all
  rw [Path.isAbsolute, Path.ofText, origin]
  rfl

/-- The names of the files before those of the hooks. -/
def coreStems (options : Options) : List String :=
  ["client.", "queryKeys.", "invalidate."] ++ if options.generateTypes then ["types."] else []

def integrationStems (integration : Option Integration) : List String :=
  if integration.isSome then ["openapi-ts.config."] else []

def hookPaths (groups : Api.Groups) (byTag : Bool) (extension : String) : List String :=
  if byTag then groups.map fun (tag, _) => Naming.hooksPath tag extension
  else ["hooks.generated." ++ extension]

theorem paths_plan (options : Options) (model : Model) (integration : Option Integration) :
    (plan options model integration).map (·.path) =
      (coreStems options).map (· ++ options.extension) ++
        hookPaths model.groups options.groupByTag options.extension ++
        (integrationStems integration).map (· ++ options.extension) := by
  have core : (coreFiles options model integration ++ typeFiles options model).map (·.path) =
      (coreStems options).map (· ++ options.extension) := by
    rw [coreFiles, typeFiles, coreStems]
    cases options.generateTypes <;> rfl
  have hooks : (hookFiles model.groups options.groupByTag options.extension).map (·.path) =
      hookPaths model.groups options.groupByTag options.extension := by
    rw [hookFiles, hookPaths]
    cases options.groupByTag with
    | true => simp only [if_true, List.map_map, Function.comp_def]
    | false => rfl
  have last : (integrationFiles options integration).map (·.path) =
      (integrationStems integration).map (· ++ options.extension) := by
    cases integration <;> rfl
  rw [plan, List.map_append, List.map_append, core, hooks, last]

theorem begins_stem {stem : String} (known : stem ∈ stems) :
    stem ≠ "" ∧ stem.toList.head? ≠ some '/' := by
  revert stem
  decide

theorem descends_stem {file : PlannedFile} {stem : String} (free : '/' ∉ extension.toList)
    (known : stem ∈ stems) (same : file.path = stem ++ extension) : file.Descends := by
  have route : file.route = ⟨0, [stem ++ extension]⟩ := by
    rw [PlannedFile.route, same]
    exact route_stem known free
  refine ⟨?_, by rw [route], by rw [route]; exact List.cons_ne_nil _ _⟩
  rw [same]
  exact isAbsolute_append (begins_stem known)

theorem relative_hooksPath (tag extension : String) :
    (Path.ofText (Naming.hooksPath tag extension)).isAbsolute = false := by
  have whole : Naming.hooksPath tag extension = "hooks/" ++ (tag ++ ".generated." ++ extension) := by
    rw [← String.append_assoc, ← String.append_assoc]
    rfl
  rw [whole]
  exact isAbsolute_append (by decide)

theorem descends_hooks {file : PlannedFile} (free : '/' ∉ extension.toList)
    (same : file.path = Naming.hooksPath tag extension) (stays : ¬ Climbs tag) : file.Descends := by
  have route : file.route = ⟨(tagRoute tag).up, hookNames extension tag⟩ := by
    rw [PlannedFile.route, same]
    exact route_hooksPath free
  refine ⟨?_, ?_, ?_⟩
  · rw [same]
    exact relative_hooksPath tag extension
  · rw [route]
    exact Nat.eq_zero_of_not_pos stays
  · rw [route]
    exact List.append_ne_nil_of_right_ne_nil _ (List.cons_ne_nil _ _)

/-- The names that lead to the file of a tag tell where the tag leads. -/
theorem hookNames_eq_iff {tag' : String} :
    hookNames extension tag = hookNames extension tag' ↔ tagPlace tag = tagPlace tag' := by
  rw [hookNames, hookNames, tagPlace, tagPlace, List.append_singleton_inj, List.append_singleton_inj,
    String.append_left_inj]

theorem hookNames_ne_stem {stem : String}
    (other : ¬ ".generated.".toList <:+ stem.toList) : hookNames extension tag ≠ [stem ++ extension] := by
  intro same
  rw [hookNames, ← List.nil_append [stem ++ extension], List.append_singleton_inj, hooksEnding,
    ← String.append_assoc, String.append_left_inj] at same
  refine other ⟨(tagName tag).toList, ?_⟩
  rw [← same.2, String.toList_append]

variable (options : Options) (model : Model) (integration : Option Integration)

theorem sublist_stems :
    (coreStems options ++ ["hooks.generated."] ++ integrationStems integration).Sublist stems := by
  rw [coreStems, integrationStems]
  cases options.generateTypes <;> cases integration.isSome <;> decide

theorem not_hooks_of_mem {stem : String}
    (around : stem ∈ coreStems options ++ integrationStems integration) :
    ¬ ".generated.".toList <:+ stem.toList := by
  revert stem
  rw [coreStems, integrationStems]
  cases options.generateTypes <;> cases integration.isSome <;> decide

theorem nodup_singles {names : List String} (distinct : names.Nodup) (extension : String) :
    (names.map fun stem => [stem ++ extension]).Nodup := by
  refine distinct.map fun a b same => ?_
  rwa [List.singleton_inj, String.append_left_inj] at same

theorem names_stems {names : List String} (free : '/' ∉ extension.toList)
    (known : ∀ stem ∈ names, stem ∈ stems) :
    (names.map (· ++ extension)).map (fun path => (Path.ofText path).route.names) =
      names.map fun stem => [stem ++ extension] := by
  rw [List.map_map]
  refine List.map_congr_left fun stem inside => ?_
  exact congrArg Route.names (route_stem (known stem inside) free)

theorem names_plan (free : '/' ∉ options.extension.toList) :
    (plan options model integration).map (·.route.names) =
      (coreStems options).map (fun stem => [stem ++ options.extension]) ++
        (if options.groupByTag then model.groups.map fun group => hookNames options.extension group.1
          else [["hooks.generated." ++ options.extension]]) ++
        (integrationStems integration).map fun stem => [stem ++ options.extension] := by
  have known := (sublist_stems options integration).subset
  have names : (plan options model integration).map (·.route.names) =
      ((plan options model integration).map (·.path)).map fun path => (Path.ofText path).route.names := by
    rw [List.map_map]
    rfl
  have hooks : (hookPaths model.groups options.groupByTag options.extension).map
      (fun path => (Path.ofText path).route.names) =
      if options.groupByTag then model.groups.map fun group => hookNames options.extension group.1
        else [["hooks.generated." ++ options.extension]] := by
    rw [hookPaths]
    cases options.groupByTag with
    | true =>
        simp only [if_true, List.map_map]
        refine List.map_congr_left fun group _ => ?_
        exact congrArg Route.names (route_hooksPath free)
    | false => exact @names_stems _ ["hooks.generated."] free (by decide)
  rw [names, paths_plan, List.map_append, List.map_append, hooks, names_stems free, names_stems free]
  · exact fun stem inside => known (List.mem_append_right _ inside)
  · exact fun stem inside => known (List.mem_append_left _ (List.mem_append_left _ inside))

/-- What a plan with a file for each tag asks of the tags. -/
structure TagsSpread (model : Model) : Prop where
  stay : ∀ op ∈ model.operations, ¬ Climbs op.tag
  apart : ∀ a ∈ model.operations, ∀ b ∈ model.operations, tagPlace a.tag = tagPlace b.tag → a.tag = b.tag

theorem nodup_names (free : '/' ∉ options.extension.toList)
    (spread : options.groupByTag = true → TagsSpread model) :
    ((plan options model integration).map (·.route.names)).Nodup := by
  have distinct := (sublist_stems options integration).nodup (by decide)
  rw [names_plan options model integration free]
  cases mode : options.groupByTag with
  | false =>
      have singles := nodup_singles distinct options.extension
      rwa [List.map_append, List.map_append] at singles
  | true =>
      have around : (coreStems options ++ integrationStems integration).Nodup :=
        ((List.Sublist.append_right (List.sublist_append_left _ _) _).nodup distinct)
      -- Hook files are told apart by tag and the others by stem, so the hook files are taken to the front.
      have order : ∀ A H B : List (List String), (A ++ H ++ B).Perm (H ++ (A ++ B)) := by
        intro A H B
        rw [← List.append_assoc]
        exact List.perm_append_comm.append_right B
      rw [if_pos rfl, (order _ _ _).nodup_iff, ← List.map_append, List.nodup_append]
      refine ⟨?_, nodup_singles around _, ?_⟩
      · refine model.nodup_map_groups fun a knownA b knownB same => ?_
        exact (spread mode).apart a knownA b knownB (hookNames_eq_iff.1 same)
      · intro names insideA others insideB same
        obtain ⟨group, -, rfl⟩ := List.mem_map.1 insideA
        obtain ⟨stem, inside, rfl⟩ := List.mem_map.1 insideB
        exact hookNames_ne_stem (not_hooks_of_mem options integration inside) same

end Plan

end QueryHooks
