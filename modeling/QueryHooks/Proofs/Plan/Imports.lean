import QueryHooks.Proofs.Plan.Confined
import QueryHooks.Proofs.TypeScript.Lines

/-!
Where the imports of planned files lead. The file of hooks for a tag goes one directory up to the other
files, but it lies where its tag leads; so its imports find them if the tag leads one directory down.
-/

namespace QueryHooks.Plan

open QueryHooks.Api (Model Operation)
open QueryHooks.Path (Route)
open QueryHooks.Render (ImportBase)
open QueryHooks.TypeScript (Code Imports.relative)

variable {options : Options} {model : Model} {integration : Option Integration}

def invalidateFile (options : Options) (model : Model) : PlannedFile :=
  ⟨"invalidate." ++ options.extension, Render.invalidate model.groups⟩

/-- The files that import others: those of hooks, and the one of invalidation helpers. -/
def importers (options : Options) (model : Model) : List PlannedFile :=
  hookFiles model.groups options.groupByTag options.extension ++ [invalidateFile options model]

/-- The place that an import of a file leads to. -/
def importedPlace (workdir : Place) (outDir : String) (file : PlannedFile) (specifier : String) : Place :=
  (Path.ofText specifier).resolve (file.place workdir outDir).dropLast

/-- Whether a place is that of the client or of the query keys, as modules name them, and the plan has the file. -/
def NamesModule (workdir : Place) (outDir extension : String) (files : List PlannedFile) (place : Place) : Prop :=
  ∃ stem ∈ ["client", "queryKeys"], place = (Path.ofText outDir).resolve workdir ++ [stem ++ ".js"] ∧
    ∃ file ∈ files, file.place workdir outDir =
      (Path.ofText outDir).resolve workdir ++ [stem ++ "." ++ extension]

def Resolves (workdir : Place) (outDir extension : String) (files : List PlannedFile) (file : PlannedFile) : Prop :=
  ∀ specifier ∈ Imports.relative file.contents,
    NamesModule workdir outDir extension files (importedPlace workdir outDir file specifier)

/-- Whether all relative imports of planned files find a planned file. -/
def ImportsResolve (workdir : Place) (outDir : String) (options : Options) (model : Model)
    (integration : Option Integration) : Prop :=
  ∀ file ∈ importers options model,
    Resolves workdir outDir options.extension (plan options model integration) file

/-- Whether the file of a tag lies in a directory that lies in the output directory. -/
def LiesOneDown (tag : String) : Prop := (tagRoute tag).up = 0 ∧ (tagRoute tag).names.length = 1

instance (tag : String) : Decidable (LiesOneDown tag) := inferInstanceAs (Decidable (_ ∧ _))

/-- The relative specifier of a file that all plans have. -/
def specifierOf (base : ImportBase) (stem : String) : String := base.text ++ stem ++ ".js"

/-- The directory that a base leads to. -/
def baseFrom (directory : Place) : ImportBase → Place
  | .sibling => directory
  | .parent => directory.dropLast

theorem relative_hooks (base : ImportBase) (body : List Code) :
    Imports.relative (Code.text (Render.Hooks.preamble base ++ body)) =
      ["client", "queryKeys", "client"].map (specifierOf base) := by
  have head : Render.Hooks.preamble base ++ body = (Render.Hooks.preamble base).take 5 ++
      Code.blank :: ((Render.Hooks.preamble base).drop 6 ++ body) := rfl
  rw [head, TypeScript.Imports.relative_text]
  · cases base <;> decide
  · cases base <;> decide

theorem relative_invalidate (groups : Api.Groups) :
    Imports.relative (Render.invalidate groups) = ["queryKeys"].map (specifierOf .sibling) := by
  have head : Render.invalidate groups = Code.text ([
      .line "// GENERATED FILE",
      .line ("import type " ++ Code.inBraces "QueryClient" ++ " from '@tanstack/react-query';"),
      .line ("import " ++ Code.inBraces "queryKeys" ++ " from './queryKeys.js';")] ++ Code.blank :: [
      Code.braces "export const invalidate = (qc: QueryClient) => ("
        ((Render.KeyGroup.ofGroups groups).map Render.Invalidate.groupCode) ");"]) := rfl
  rw [head, TypeScript.Imports.relative_text (by decide)]
  decide

theorem place_stem {stem : String} (known : stem ∈ stems) (free : '/' ∉ options.extension.toList)
    {file : PlannedFile} (same : file.path = stem ++ options.extension) (workdir : Place) (outDir : String) :
    file.place workdir outDir = (Path.ofText outDir).resolve workdir ++ [stem ++ options.extension] := by
  have route : file.route = ⟨0, [stem ++ options.extension]⟩ := by
    rw [PlannedFile.route, same]
    exact route_stem known free
  rw [(descends_stem free known same).place_eq, route]

theorem exists_stem {stem : String} (known : stem ∈ ["client", "queryKeys"]) (free : '/' ∉ options.extension.toList)
    (workdir : Place) (outDir : String) :
    ∃ file ∈ plan options model integration, file.place workdir outDir =
      (Path.ofText outDir).resolve workdir ++ [stem ++ "." ++ options.extension] := by
  have planned : ∀ path ∈ (coreStems options).map (· ++ options.extension),
      path ∈ (plan options model integration).map (·.path) := by
    intro path inside
    rw [paths_plan]
    exact List.mem_append_left _ (List.mem_append_left _ inside)
  have stemmed : stem ++ "." ∈ coreStems options ∧ stem ++ "." ∈ stems := by
    rw [coreStems]
    revert stem
    cases options.generateTypes <;> decide
  obtain ⟨file, inside, same⟩ := List.mem_map.1 (planned _ (List.mem_map_of_mem stemmed.1))
  exact ⟨file, inside, place_stem stemmed.2 free same workdir outDir⟩

/-- A module is found exactly from the output directory. -/
theorem namesModule_iff {stem : String} (known : stem ∈ ["client", "queryKeys"])
    (free : '/' ∉ options.extension.toList) (workdir : Place) (outDir : String) (directory : Place) :
    NamesModule workdir outDir options.extension (plan options model integration) (directory ++ [stem ++ ".js"]) ↔
      directory = (Path.ofText outDir).resolve workdir := by
  constructor
  · rintro ⟨_, -, same, -⟩
    exact (List.append_singleton_inj.1 same).1
  · rintro rfl
    exact ⟨stem, known, rfl, exists_stem known free workdir outDir⟩

theorem importedPlace_specifierOf {stem : String} (known : stem ∈ ["client", "queryKeys"]) (base : ImportBase)
    (file : PlannedFile) (workdir : Place) (outDir : String) :
    importedPlace workdir outDir file (specifierOf base stem) =
      baseFrom (file.place workdir outDir).dropLast base ++ [stem ++ ".js"] := by
  have name : (stem ++ ".js" == "..") = false := by
    revert stem
    decide
  have path : Path.ofText (specifierOf base stem) =
      ⟨.relative, (if base = .parent then [".."] else []) ++ [stem ++ ".js"]⟩ := by
    clear name
    revert stem
    cases base <;> decide
  rw [importedPlace, path]
  cases base <;> simp [Path.resolve, Path.isAbsolute, Path.follow, name, baseFrom]

/-- The imports of a file lead to the other files exactly if their base is the output directory. -/
theorem resolves_iff {base : ImportBase} {file : PlannedFile} {names : List String}
    (free : '/' ∉ options.extension.toList) (known : ∀ stem ∈ names, stem ∈ ["client", "queryKeys"])
    (some : names ≠ []) (imports : Imports.relative file.contents = names.map (specifierOf base))
    (workdir : Place) (outDir : String) :
    Resolves workdir outDir options.extension (plan options model integration) file ↔
      baseFrom (file.place workdir outDir).dropLast base = (Path.ofText outDir).resolve workdir := by
  rw [Resolves, imports, List.forall_mem_map]
  constructor
  · intro resolve
    obtain ⟨stem, rest, rfl⟩ := List.exists_cons_of_ne_nil some
    have named := resolve stem List.mem_cons_self
    rw [importedPlace_specifierOf (known stem List.mem_cons_self)] at named
    exact (namesModule_iff (known stem List.mem_cons_self) free _ _ _).1 named
  · intro found stem inside
    rw [importedPlace_specifierOf (known stem inside)]
    exact (namesModule_iff (known stem inside) free _ _ _).2 found

/-- The base of the imports in files of hooks. -/
def baseOf (options : Options) : ImportBase := if options.groupByTag then .parent else .sibling

theorem relative_of_hookFiles {file : PlannedFile}
    (inside : file ∈ hookFiles model.groups options.groupByTag options.extension) :
    Imports.relative file.contents = ["client", "queryKeys", "client"].map (specifierOf (baseOf options)) := by
  rw [baseOf]
  cases mode : options.groupByTag with
  | true =>
      rw [mode] at inside
      obtain ⟨group, -, rfl⟩ := List.mem_map.1 inside
      exact relative_hooks .parent _
  | false =>
      rw [mode] at inside
      rw [List.mem_singleton.1 inside]
      exact relative_hooks .sibling _

theorem baseFrom_hooksFile {op : Operation} (free : '/' ∉ options.extension.toList) (workdir : Place)
    (outDir : String) :
    baseFrom ((hooksFile options model op).place workdir outDir).dropLast .parent =
      ((tagRoute op.tag).endFrom ((Path.ofText outDir).resolve workdir)).dropLast := by
  rw [place_hooksFile free, baseFrom, Route.endFrom, hookNames, ← List.append_assoc, List.dropLast_concat]
  rfl

theorem mem_hookFiles_iff (byTag : options.groupByTag = true) {file : PlannedFile} :
    file ∈ hookFiles model.groups options.groupByTag options.extension ↔
      ∃ op ∈ model.operations, file = hooksFile options model op := by
  rw [byTag, hookFiles, if_pos rfl, List.mem_map]
  constructor
  · rintro ⟨⟨tag, ops⟩, grouped, rfl⟩
    obtain ⟨declared, rfl⟩ := Model.mem_groups_iff.1 grouped
    obtain ⟨op, known, rfl⟩ := List.mem_map.1 declared
    exact ⟨op, known, rfl⟩
  · rintro ⟨op, known, rfl⟩
    exact ⟨_, Model.mem_groups_iff.2 ⟨List.mem_map_of_mem known, rfl⟩, rfl⟩

/-- The files of tags find the others exactly if they lie one directory down. -/
theorem resolve_hookFiles_iff (free : '/' ∉ options.extension.toList) (byTag : options.groupByTag = true) :
    (∀ workdir outDir, ∀ file ∈ hookFiles model.groups options.groupByTag options.extension,
      Resolves workdir outDir options.extension (plan options model integration) file) ↔
      ∀ op ∈ model.operations, LiesOneDown op.tag := by
  have base : baseOf options = .parent := by rw [baseOf, byTag, if_pos rfl]
  -- the base is one directory above the one that the tag leads to, and must be where its way starts
  have each {op : Operation} (known : op ∈ model.operations) (workdir : Place) (outDir : String) :
      Resolves workdir outDir options.extension (plan options model integration) (hooksFile options model op) ↔
        ((tagRoute op.tag).endFrom ((Path.ofText outDir).resolve workdir)).dropLast =
          (Path.ofText outDir).resolve workdir := by
    have imports := relative_of_hookFiles ((mem_hookFiles_iff byTag).2 ⟨op, known, rfl⟩)
    rw [base] at imports
    rw [resolves_iff free (by decide) (by decide) imports, baseFrom_hooksFile free]
  constructor
  · intro resolve op known
    refine Route.dropLast_endFrom_iff.1 fun here => ?_
    exact (each known here ".").1 (resolve here "." _ ((mem_hookFiles_iff byTag).2 ⟨op, known, rfl⟩))
  · intro down workdir outDir file inside
    obtain ⟨op, known, rfl⟩ := (mem_hookFiles_iff byTag).1 inside
    exact (each known workdir outDir).2 (Route.dropLast_endFrom_iff.2 (down op known) _)

theorem resolves_stem {stem : String} {names : List String} (free : '/' ∉ options.extension.toList)
    (known : stem ∈ stems) {file : PlannedFile} (same : file.path = stem ++ options.extension)
    (stemmed : ∀ name ∈ names, name ∈ ["client", "queryKeys"]) (some : names ≠ [])
    (imports : Imports.relative file.contents = names.map (specifierOf .sibling)) (workdir : Place) (outDir : String) :
    Resolves workdir outDir options.extension (plan options model integration) file := by
  rw [resolves_iff free stemmed some imports, baseFrom, place_stem known free same, List.dropLast_concat]

theorem resolves_invalidateFile (free : '/' ∉ options.extension.toList) (workdir : Place) (outDir : String) :
    Resolves workdir outDir options.extension (plan options model integration) (invalidateFile options model) := by
  have known : "invalidate." ∈ stems := by decide
  have stemmed : ∀ name ∈ ["queryKeys"], name ∈ ["client", "queryKeys"] := by decide
  have imports : Imports.relative (invalidateFile options model).contents =
      ["queryKeys"].map (specifierOf .sibling) := relative_invalidate model.groups
  exact resolves_stem free known rfl stemmed (List.cons_ne_nil _ _) imports workdir outDir

theorem resolves_combinedHooks (free : '/' ∉ options.extension.toList) (combined : options.groupByTag = false)
    {file : PlannedFile} (inside : file ∈ hookFiles model.groups options.groupByTag options.extension)
    (workdir : Place) (outDir : String) :
    Resolves workdir outDir options.extension (plan options model integration) file := by
  have known : "hooks.generated." ∈ stems := by decide
  have stemmed : ∀ name ∈ ["client", "queryKeys", "client"], name ∈ ["client", "queryKeys"] := by decide
  have imports := relative_of_hookFiles inside
  have base : baseOf options = .sibling := by rw [baseOf, combined]; rfl
  rw [base] at imports
  have path : file.path = "hooks.generated." ++ options.extension := by
    rw [combined, hookFiles, if_neg Bool.false_ne_true, List.mem_singleton] at inside
    rw [inside]
    rfl
  exact resolves_stem free known path stemmed (List.cons_ne_nil _ _) imports workdir outDir

theorem importsResolve_iff (free : '/' ∉ options.extension.toList) :
    (∀ workdir outDir, ImportsResolve workdir outDir options model integration) ↔
      (options.groupByTag = true → ∀ op ∈ model.operations, LiesOneDown op.tag) := by
  constructor
  · intro resolve byTag
    have hooks : ∀ workdir outDir, ∀ file ∈ hookFiles model.groups options.groupByTag options.extension,
        Resolves workdir outDir options.extension (plan options model integration) file :=
      fun workdir outDir file inside => resolve workdir outDir file (List.mem_append_left _ inside)
    exact (resolve_hookFiles_iff free byTag).1 hooks
  · intro down workdir outDir file inside
    rcases List.mem_append.1 inside with hooks | last
    · cases mode : options.groupByTag with
      | true => exact (resolve_hookFiles_iff free mode).2 (down mode) workdir outDir file hooks
      | false => exact resolves_combinedHooks free mode hooks workdir outDir
    · rw [List.mem_singleton.1 last]
      exact resolves_invalidateFile free workdir outDir

theorem liesOneDown_of_not_mem {tag : String} (free : '/' ∉ tag.toList) : LiesOneDown tag := by
  rw [LiesOneDown, (tagRoute_of_not_mem free).1]
  decide

theorem mem_plan_of_importer {file : PlannedFile} (inside : file ∈ importers options model) :
    file ∈ plan options model integration ∧ Imports.relative file.contents ≠ [] := by
  rcases List.mem_append.1 inside with hooks | last
  · refine ⟨List.mem_append_left _ (List.mem_append_right _ hooks), ?_⟩
    rw [relative_of_hookFiles hooks]
    exact List.cons_ne_nil _ _
  · rw [List.mem_singleton.1 last]
    have core : invalidateFile options model ∈ coreFiles options model integration :=
      List.mem_cons_of_mem _ (List.mem_cons_of_mem _ List.mem_cons_self)
    refine ⟨List.mem_append_left _ (List.mem_append_left _ (List.mem_append_left _ core)), ?_⟩
    rw [invalidateFile, relative_invalidate]
    exact List.cons_ne_nil _ _

/--
Wherever the output directory is, the relative imports of planned files find the client and the query
keys: always with one file of hooks; with a file for each tag exactly if each of them lies one directory
down, and so if no tag has a slash.
-/
theorem imports_resolve_iff (options : Options) (model : Model) (integration : Option Integration)
    (free : '/' ∉ options.extension.toList) :
    (∀ file ∈ importers options model,
      file ∈ plan options model integration ∧ Imports.relative file.contents ≠ []) ∧
    ((∀ workdir outDir, ImportsResolve workdir outDir options model integration) ↔
      (options.groupByTag = true → ∀ op ∈ model.operations, LiesOneDown op.tag)) ∧
    ((∀ op ∈ model.operations, '/' ∉ op.tag.toList) →
      ∀ workdir outDir, ImportsResolve workdir outDir options model integration) := by
  refine ⟨fun file inside => mem_plan_of_importer inside, importsResolve_iff free, fun slashFree => ?_⟩
  exact (importsResolve_iff free).2 fun _ op known => liesOneDown_of_not_mem (slashFree op known)

/-- Tags with and without slashes, whose files all lie one directory down. -/
private def beside : Model where
  operations := ["pets", "../shop/pets", "./stores"].map fun tag =>
    ⟨tag, "list", .get, "/", none, none, [], none, []⟩
  title := none
  version := none
  baseUrl := none

theorem beside_imports_resolve :
    '/' ∉ "ts".toList ∧ (∃ op ∈ beside.operations, '/' ∈ op.tag.toList) ∧
      ∀ workdir outDir, ImportsResolve workdir outDir { schemaSource := "api.json" } beside none := by
  have free : '/' ∉ "ts".toList := by decide
  have down : ∀ op ∈ beside.operations, LiesOneDown op.tag := by decide
  exact ⟨free, by decide, (imports_resolve_iff { schemaSource := "api.json" } beside none free).2.1.2 fun _ => down⟩

private def tiered : Model where
  operations := [⟨"admin/users", "list", .get, "/", none, none, [], none, []⟩]
  title := none
  version := none
  baseUrl := none

/-- The hooks of a tag with a slash look for the client in the directory of hooks, where it is not. -/
theorem exists_import_lost :
    ∃ file ∈ importers { schemaSource := "api.json" } tiered, "../client.js" ∈ Imports.relative file.contents ∧
      importedPlace ["work"] "out" file "../client.js" = ["work", "out", "hooks", "client.js"] ∧
      ¬ NamesModule ["work"] "out" "ts" (plan { schemaSource := "api.json" } tiered none)
        (importedPlace ["work"] "out" file "../client.js") := by
  let options : Options := { schemaSource := "api.json" }
  have free : '/' ∉ options.extension.toList := by decide
  have client : "client" ∈ ["client", "queryKeys"] := by decide
  obtain ⟨op, known⟩ : ∃ op, op ∈ tiered.operations := ⟨_, List.mem_cons_self⟩
  have tag : op.tag = "admin/users" := by rw [List.mem_singleton.1 known]
  have hooks : hooksFile options tiered op ∈ hookFiles tiered.groups options.groupByTag options.extension :=
    (mem_hookFiles_iff rfl).2 ⟨op, known, rfl⟩
  have place : importedPlace ["work"] "out" (hooksFile options tiered op) (specifierOf .parent "client") =
      ["work", "out", "hooks"] ++ ["client" ++ ".js"] := by
    rw [importedPlace_specifierOf client, baseFrom_hooksFile free, tag]
    decide
  refine ⟨_, List.mem_append_left _ hooks, ?_, place, ?_⟩
  · rw [relative_of_hookFiles hooks]
    exact List.mem_cons_self
  · intro named
    change NamesModule ["work"] "out" options.extension (plan options tiered none)
      (importedPlace ["work"] "out" (hooksFile options tiered op) (specifierOf .parent "client")) at named
    rw [place, namesModule_iff client free] at named
    exact absurd named (by decide)

end QueryHooks.Plan
