import QueryHooks.Proofs.Generate.Trial
import QueryHooks.Proofs.Json.Limits
import QueryHooks.Proofs.Json.Names
import QueryHooks.Proofs.Report.Unstyled

/-!
The integration descriptor only decorates. Whatever lies at its path, loading it ends; a descriptor that is left
out changes nothing but the notes, and one that is taken changes the client and adds a file of its own.
-/

namespace QueryHooks

open QueryHooks.Api (Model)
open QueryHooks.CommandLine (Flags perform runCommand runCommand_unstyled stdout_unstyled)
open QueryHooks.Report (forbidsStyle refusal?)

namespace Integration

variable {world : World} {path : String} {fields entries : List (Value × Value)} {found : Option Integration}
  {i : Integration}

/-- The entries of the headers in a descriptor's fields, if they are a mapping. -/
def headerEntries? (fields : List (Value × Value)) : Option (List (Value × Value)) :=
  match Value.lookup "headers" fields with
  | some (.map entries) => some entries
  | _ => none

/-- The keys of headers that come from a JSON text are texts. -/
theorem named_of_headerEntries {chars : List Char} (isRead : Json.read chars = .ok (.map fields))
    (isHeaders : headerEntries? fields = some entries) : ∀ e ∈ entries, ∃ name, e.1 = .text name := by
  have inside : (Value.text "headers", Value.map entries) ∈ fields := by
    unfold headerEntries? at isHeaders
    split at isHeaders
    · next found =>
        cases isHeaders
        exact Value.mem_of_lookup found
    · cases isHeaders
  have part : Value.map entries ∈ (Value.map fields).parts := List.mem_map.2 ⟨_, inside, rfl⟩
  exact Json.hasTextKeys_read isRead entries (Value.all_part part (Value.mem_all_self _))

/-- Whether the value of an entry is a text. -/
def hasText (entry : Value × Value) : Bool :=
  match entry.2 with
  | .text _ => true
  | _ => false

/-- The warning of a header that is dropped. -/
def droppedHeader (path : String) (entry : Value × Value) : Note :=
  let header := entry.1.display
  .warning s!"Ignoring header '{header}' in OpenAPI-TS config {path}: value must be a string"

/-- The note on a descriptor that is taken. -/
def takenNote (i : Integration) : Note :=
  .debug s!"OpenAPI-TS integration: types at {i.typesPath}"

/-- Headers are the entries with texts, in their order, and each of the others is warned of once. -/
theorem splitHeaders_eq (path : String) (named : ∀ e ∈ entries, ∃ name, e.1 = .text name) :
    (splitHeaders path entries).1.map (fun (name, text) => (Value.text name, Value.text text)) =
        entries.filter hasText ∧
      (splitHeaders path entries).2 = (entries.filter (!hasText ·)).map (droppedHeader path) := by
  induction entries with
  | nil => exact ⟨rfl, rfl⟩
  | cons e rest ih =>
      obtain ⟨first, others⟩ := List.forall_mem_cons.1 named
      obtain ⟨kept, dropped⟩ := ih others
      obtain ⟨key, v⟩ := e
      obtain ⟨name, rfl⟩ : ∃ name, key = .text name := first
      rw [splitHeaders]
      cases v with
      | text s => exact ⟨congrArg ((Value.text name, Value.text s) :: ·) kept, dropped⟩
      | _ => exact ⟨kept, congrArg (droppedHeader path (.text name, _) :: ·) dropped⟩

theorem splitHeaders_of_fields (path : String) (fields : List (Value × Value)) :
    (match Value.lookup "headers" fields with
      | some (.map entries) => (some (splitHeaders path entries).1, (splitHeaders path entries).2)
      | _ => (none, [])) =
      ((headerEntries? fields).map fun entries => (splitHeaders path entries).1,
        ((headerEntries? fields).map fun entries => (splitHeaders path entries).2).getD []) := by
  unfold headerEntries?
  split <;> rfl

/-- What a descriptor that is taken from fields has for headers, and what is noted of it. -/
theorem ofFields_some {notes : List Note} (taken : ofFields path fields = (some i, notes)) :
    i.headers = (headerEntries? fields).map (fun entries => (splitHeaders path entries).1) ∧
      notes = ((headerEntries? fields).map fun entries => (splitHeaders path entries).2).getD [] ++ [takenNote i] := by
  have same := splitHeaders_of_fields path fields
  unfold ofFields at taken
  dsimp only at taken
  split at taken
  · cases taken
    exact ⟨congrArg Prod.fst same, congrArg (·.2 ++ _) same⟩
  · cases taken
    exact ⟨congrArg Prod.fst same, congrArg (·.2 ++ _) same⟩
  · cases taken
    exact ⟨congrArg Prod.fst same, congrArg (·.2 ++ _) same⟩
  · split at taken <;> cases taken
    exact ⟨congrArg Prod.fst same, congrArg (·.2 ++ _) same⟩

/-- A descriptor is taken from the fields of a mapping. -/
theorem exists_fields_of_load (taken : (load world (some path)).result = .ok (some i)) :
    ∃ text fields, readText world path = .ok text ∧ Json.read text.toList = .ok (.map fields) ∧
      ofFields path fields = (some i, (load world (some path)).notes) := by
  unfold load at taken ⊢
  split at taken
  · cases taken
  · next same => cases same; cases taken
  · next here _ same =>
      cases same
      split at taken
      · cases taken
      · next text isText =>
          unfold ofText at taken ⊢
          split at taken
          · next fields isRead =>
              refine ⟨text, fields, isText, isRead, ?_⟩
              exact Prod.ext (Except.ok.inj taken) rfl
          · cases taken
          · split at taken <;> cases taken

theorem exists_load
    (shallow : ∀ text, readText world path = .ok text → Json.nestsWithin false 0 text.toList = true) :
    ∃ found, (load world (some path)).result = .ok found := by
  unfold load
  split
  · exact ⟨none, rfl⟩
  · exact ⟨none, rfl⟩
  · next here _ same =>
      cases same
      split
      · exact ⟨none, rfl⟩
      · next text isText =>
          unfold ofText
          split
          · exact ⟨_, rfl⟩
          · exact ⟨none, rfl⟩
          · next fault failed =>
              obtain ⟨reason, told⟩ := Json.message_of_nests (shallow text isText) failed
              rw [told]
              exact ⟨none, rfl⟩

end Integration

/-! Runs with a descriptor and without one -/

/-- Options without a descriptor. -/
def Options.undecorated (options : Options) : Options := { options with openapiTsConfig := none }

namespace Noted

variable {α : Type}

theorem hear_open (notes : List Note) : Listener.open.hear notes = (notes, .ok ()) := by
  induction notes with
  | nil => rfl
  | cons note rest ih =>
      rw [Listener.hear, ih]
      rfl

theorem heard_open (computed : Noted α) : computed.heard .open = computed := by
  rw [heard, hear_open]

end Noted

namespace Generation

variable {world : World} {options options' : Options} {found : Option Integration}

/-- What a run generates of a description and a descriptor. -/
def ofModel (options : Options) (found : Option Integration) (model : Model) : Generation where
  files := plan options model found
  written := []
  operationCount := model.operations.length
  integrationConfigured := found.isSome
  outDir := options.outDir
  dryRun := options.dryRun

/-- Behind a descriptor that is loaded, the description alone decides whether there is a plan. -/
theorem result_planned (loaded : (Integration.load world options.openapiTsConfig).result = .ok found) :
    (planned world options).result = (Model.load world options.schemaSource).result.map (ofModel options found) := by
  simp only [planned, bind, Noted.andThen]
  cases (Model.load world options.schemaSource).result with
  | error failure => rfl
  | ok model =>
      dsimp only
      rw [loaded]
      rfl

theorem result_planned_undecorated (world : World) (options : Options) :
    (planned world options.undecorated).result =
      (Model.load world options.schemaSource).result.map (ofModel options none) :=
  result_planned rfl

end Generation

section Runs

variable {world : World} {options options' : Options}

theorem generate_open (world : World) (options : Options) :
    generate .open world options =
      match (Generation.planned world options).result with
      | .error failure => ⟨world.disk, (Generation.planned world options).notes, .error failure⟩
      | .ok generation =>
          if options.dryRun then
            ⟨world.disk, (Generation.planned world options).notes ++ [.debug "Dry run: no files written"],
              .ok generation⟩
          else
            let outcome := Write.files .open world.disk world.workdir options.outDir generation.files world.host
            { disk := outcome.disk
              notes := (Generation.planned world options).notes ++ outcome.notes
              result := outcome.written.map fun paths =>
                { generation with written := paths.map fun p => Path.placeText (p.resolve world.workdir) } } := by
  unfold generate
  generalize heard : (Generation.planned world options).heard .open = start
  obtain rfl := (Noted.heard_open (Generation.planned world options)).symm.trans heard
  rfl

/-- A run does what it plans, whatever it notes on the way to its plan. -/
theorem generate_of_planned
    (same : (Generation.planned world options).result = (Generation.planned world options').result)
    (sameOut : options.outDir = options'.outDir) (sameMode : options.dryRun = options'.dryRun) :
    (generate .open world options).result = (generate .open world options').result ∧
      (generate .open world options).disk = (generate .open world options').disk := by
  rw [generate_open, generate_open, same, sameOut, sameMode]
  cases (Generation.planned world options').result with
  | error failure => simp only [and_self]
  | ok generation => cases options'.dryRun <;> simp only [if_true, Bool.false_eq_true, if_false, and_self]

theorem runCommand_of_generate {flags : Flags} {arguments arguments' : Arguments}
    (unstyled : (flags.noColor || forbidsStyle world) = true)
    (resolved : Options.resolve world arguments none = .ok options)
    (resolved' : Options.resolve world arguments' none = .ok options')
    (same : (generate .open world options).result = (generate .open world options').result)
    (sameDisk : (generate .open world options).disk = (generate .open world options').disk) :
    (runCommand world flags (.generate arguments)).disk = (runCommand world flags (.generate arguments')).disk ∧
      (runCommand world flags (.generate arguments)).exit = (runCommand world flags (.generate arguments')).exit ∧
      (runCommand world flags (.generate arguments)).streams.stdout =
        (runCommand world flags (.generate arguments')).streams.stdout := by
  have performed {arguments : Arguments} {options : Options}
      (resolved : Options.resolve world arguments none = .ok options) :
      perform .open world (.generate arguments) =
        ⟨(generate .open world options).disk, (generate .open world options).notes,
          (generate .open world options).result.map CommandLine.showGeneration⟩ := by
    change CommandLine.performGenerate .open world arguments = _
    unfold CommandLine.performGenerate
    rw [resolved]
  -- What is shown comes from the result alone, and exit code and standard output from what is shown.
  have shown : (perform .open world (.generate arguments)).shown =
      (perform .open world (.generate arguments')).shown := by
    rw [performed resolved, performed resolved', same]
  refine ⟨?_, ?_, ?_⟩
  · rw [runCommand_unstyled flags unstyled, runCommand_unstyled flags unstyled]
    dsimp only
    rw [performed resolved, performed resolved', sameDisk]
  · rw [runCommand_unstyled flags unstyled, runCommand_unstyled flags unstyled]
    dsimp only [CommandLine.Performed.exit]
    rw [shown]
  · rw [stdout_unstyled flags unstyled, stdout_unstyled flags unstyled]
    unfold CommandLine.Performed.closing
    rw [shown]

end Runs

/-- The client of a plan. -/
def clientFile (options : Options) (model : Model) (found : Option Integration) : PlannedFile :=
  let extension := options.extension
  ⟨s!"client.{extension}", Render.client (Plan.baseUrl options model found) found⟩

/-- The file of a descriptor that is taken. -/
def descriptorFile (options : Options) (i : Integration) : PlannedFile :=
  let extension := options.extension
  ⟨s!"openapi-ts.config.{extension}", Render.integrationConfig i⟩

/-- A descriptor changes the client of a plan and adds its own file at the end. -/
theorem exists_plan (options : Options) (model : Model) (i : Integration) :
    ∃ rest, plan options model none = clientFile options model none :: rest ∧
      plan options model (some i) = clientFile options model (some i) :: (rest ++ [descriptorFile options i]) := by
  refine ⟨[_, _] ++ Plan.typeFiles options model ++ Plan.hookFiles model.groups options.groupByTag options.extension,
    ?_, rfl⟩
  unfold plan Plan.integrationFiles
  rw [Option.toList_none, List.map_nil, List.append_nil]
  rfl

/--
The descriptor only decorates, and loading it always ends, whatever lies at its path, unless a text there is
nested deeper than it can be read. Without styles, a run whose descriptor is left out has the result and the disk
of a run without one, and from the command line the same exit code and standard output. A descriptor that is
taken has for headers the entries with texts of its file's headers, in their order, with one warning for each of
the others; and the plan is the one without it but for the client and the file of the descriptor at its end.
-/
theorem descriptor_only_decorates (world : World) (path : String)
    (shallow : ∀ text, Integration.readText world path = .ok text → Json.nestsWithin false 0 text.toList = true) :
    ∃ found, (Integration.load world (some path)).result = .ok found ∧
      (found = none → ∀ options, options.openapiTsConfig = some path →
        (∀ settings, settings.styled = false →
          (generate (refusal? settings) world options).result =
              (generate (refusal? settings) world options.undecorated).result ∧
            (generate (refusal? settings) world options).disk =
              (generate (refusal? settings) world options.undecorated).disk) ∧
        ∀ (flags : Flags) (arguments arguments' : Arguments), (flags.noColor || forbidsStyle world) = true →
          Options.resolve world arguments none = .ok options →
          Options.resolve world arguments' none = .ok options.undecorated →
          (runCommand world flags (.generate arguments)).disk = (runCommand world flags (.generate arguments')).disk ∧
          (runCommand world flags (.generate arguments)).exit = (runCommand world flags (.generate arguments')).exit ∧
          (runCommand world flags (.generate arguments)).streams.stdout =
            (runCommand world flags (.generate arguments')).streams.stdout) ∧
      ∀ i, found = some i →
        (∃ text fields, Integration.readText world path = .ok text ∧ Json.read text.toList = .ok (.map fields) ∧
          match Integration.headerEntries? fields with
          | none =>
              i.headers = none ∧ (Integration.load world (some path)).notes = [Integration.takenNote i]
          | some entries => ∃ headers, i.headers = some headers ∧
              headers.map (fun (name, text) => (Value.text name, Value.text text)) =
                entries.filter Integration.hasText ∧
              (Integration.load world (some path)).notes =
                (entries.filter (!Integration.hasText ·)).map (Integration.droppedHeader path) ++
                  [Integration.takenNote i]) ∧
        ∀ options,
          (options.openapiTsConfig = some path →
            (Generation.planned world options).result.map (·.files) =
              (Model.load world options.schemaSource).result.map (plan options · (some i))) ∧
          (Generation.planned world options.undecorated).result.map (·.files) =
            (Model.load world options.schemaSource).result.map (plan options · none) ∧
          ∀ model, ∃ rest, plan options model none = clientFile options model none :: rest ∧
            plan options model (some i) =
              clientFile options model (some i) :: (rest ++ [descriptorFile options i]) := by
  obtain ⟨found, loaded⟩ := Integration.exists_load shallow
  refine ⟨found, loaded, ?_, ?_⟩
  -- A descriptor that is left out gives the same plan as none; all else that a run does follows from its plan.
  · rintro rfl options isAt
    have same : (Generation.planned world options).result = (Generation.planned world options.undecorated).result := by
      rw [Generation.result_planned (isAt ▸ loaded), Generation.result_planned_undecorated]
    obtain ⟨sameResult, sameDisk⟩ := generate_of_planned same rfl rfl
    refine ⟨fun settings unstyled => ?_, fun flags arguments arguments' unstyled resolved resolved' => ?_⟩
    · rw [Report.refusal_unstyled unstyled]
      exact ⟨sameResult, sameDisk⟩
    · exact runCommand_of_generate unstyled resolved resolved' sameResult sameDisk
  -- One that is taken was read from a mapping, which tells its headers and the notes about them.
  · rintro i rfl
    refine ⟨?_, fun options => ⟨fun isAt => ?_, ?_, fun model => exists_plan options model i⟩⟩
    · obtain ⟨text, fields, isText, isRead, taken⟩ := Integration.exists_fields_of_load loaded
      refine ⟨text, fields, isText, isRead, ?_⟩
      obtain ⟨headers, notes⟩ := Integration.ofFields_some taken
      cases isHeaders : Integration.headerEntries? fields with
      | none =>
          rw [isHeaders] at headers notes
          exact ⟨headers, notes⟩
      | some entries =>
          rw [isHeaders] at headers notes
          obtain ⟨kept, dropped⟩ :=
            Integration.splitHeaders_eq path (Integration.named_of_headerEntries isRead isHeaders)
          exact ⟨_, headers, kept, notes.trans (congrArg (· ++ _) dropped)⟩
    · rw [Generation.result_planned (isAt ▸ loaded)]
      cases (Model.load world options.schemaSource).result <;> rfl
    · rw [Generation.result_planned_undecorated]
      cases (Model.load world options.schemaSource).result <;> rfl

/-- A world with a descriptor whose first header is no text. -/
private def labelled : World where
  disk := ⟨[(["ts.json"], .file (Text.Utf8.encode
    "\x7b\"headers\": \x7b\"x-count\": 1, \"x-client\": \"web\"\x7d\x7d".toList))]⟩
  workdir := []
  stdin := ""
  responses := []
  environment := []

private theorem readText_labelled : Integration.readText labelled "ts.json" =
    .ok "\x7b\"headers\": \x7b\"x-count\": 1, \"x-client\": \"web\"\x7d\x7d" := by
  with_unfolding_all rfl

private theorem load_labelled : (Integration.load labelled (some "ts.json")).result =
    .ok (some ⟨"./src/api/types.ts", none, some [("x-client", "web")]⟩) := by
  with_unfolding_all rfl

private theorem read_labelled : Json.read "\x7b\"headers\": \x7b\"x-count\": 1, \"x-client\": \"web\"\x7d\x7d".toList =
    .ok (.map [(.text "headers", .map [(.text "x-count", .int 1), (.text "x-client", .text "web")])]) := by
  with_unfolding_all rfl

theorem labelled_only_decorates :
    ∃ i, (Integration.load labelled (some "ts.json")).result = .ok (some i) ∧
      i.headers = some [("x-client", "web")] ∧
      (Integration.load labelled (some "ts.json")).notes =
        [.warning "Ignoring header 'x-count' in OpenAPI-TS config ts.json: value must be a string",
          .debug "OpenAPI-TS integration: types at ./src/api/types.ts"] := by
  have shallow : ∀ text, Integration.readText labelled "ts.json" = .ok text →
      Json.nestsWithin false 0 text.toList = true := by
    intro text isText
    rw [readText_labelled] at isText
    cases isText
    decide
  obtain ⟨found, loaded, -, taken⟩ := descriptor_only_decorates labelled "ts.json" shallow
  cases loaded.symm.trans load_labelled
  obtain ⟨⟨text, fields, isText, isRead, noted⟩, -⟩ := taken _ rfl
  rw [readText_labelled] at isText
  cases isText
  rw [read_labelled] at isRead
  cases isRead
  obtain ⟨headers, same, -, notes⟩ := noted
  exact ⟨_, loaded, rfl, notes⟩

end QueryHooks
