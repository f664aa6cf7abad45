import QueryHooks.Proofs.Api.Load
import QueryHooks.Proofs.CommandLine.Flags
import QueryHooks.Proofs.Json.RoundTrip
import QueryHooks.Proofs.Report.Unstyled

/-!
The list of operations as JSON. It is one text, which is read back as a record for each operation, but for an API
without operations: there nothing is printed, which is no JSON.
-/

namespace QueryHooks

namespace Noted

variable {α β : Type}

theorem mem_notes_bind {first : Noted α} {next : α → Noted β} {note : Note} (inside : note ∈ (first >>= next).notes) :
    note ∈ first.notes ∨ ∃ a, first.result = .ok a ∧ note ∈ (next a).notes := by
  change note ∈ (first.andThen next).notes at inside
  unfold andThen at inside
  split at inside
  · next a done =>
      rcases List.mem_append.1 inside with early | late
      · exact .inl early
      · exact .inr ⟨a, done, late⟩
  · exact .inl inside

end Noted

namespace Report

variable {settings : Settings} {notes : List Note}

/-- Behind notes that are taken, the rest is printed with the outcome that it has alone. -/
theorem result_print_after (taken : ∀ note ∈ notes, refusal? settings note = none) (items : List Item) :
    (print settings (notes.map .note ++ items)).2 = (print settings items).2 := by
  induction notes with
  | nil => rfl
  | cons note rest ih =>
      obtain ⟨printed, done⟩ := printItem_note_ok (taken note List.mem_cons_self)
      rw [List.map_cons, List.cons_append, print, done]
      exact ih fun note inside => taken note (List.mem_cons_of_mem _ inside)

end Report

namespace CommandLine

open QueryHooks.Api (Model Operation)
open QueryHooks.Report (Settings Item Data print refusal? forbidsStyle ended)

variable {settings : Settings} {model : Model}

/-- The method of an operation in capitals. -/
def capitals (op : Operation) : String := String.ofList (op.method.text.toList.map Char.toUpper)

/-- What the list tells of an operation. -/
def listing (op : Operation) : Value := .record
  [("Tag", .text op.tag), ("Hook", .text (Naming.hookName op)), ("Method", .text (capitals op)),
    ("Path", .text op.path), ("Kind", .text (if op.isQuery then "query" else "mutation"))]

theorem recordOf_operationRow (op : Operation) : Data.recordOf operationHeaders (operationRow op) = listing op := by
  have upper : op.method.wireText = capitals op := by
    unfold capitals
    cases op.method <;> decide
  rw [operationRow, upper]
  rfl

theorem isTextual_listing (op : Operation) : Json.IsTextual 984 (listing op) := by
  refine .record (show ["Tag", "Hook", "Method", "Path", "Kind"].Nodup by decide) ?_
  simp only [List.forall_mem_cons]
  exact ⟨.text _, .text _, .text _, .text _, .text _, fun _ impossible => absurd impossible List.not_mem_nil⟩

/-- Notes for debugging are all that loading a model leaves. -/
theorem level_of_inspected {world : World} {arguments : Arguments} {note : Note}
    (inside : note ∈ (inspected world arguments).notes) : note.level = .debug := by
  have quiet {α : Type} (result : Except Failure α) : note ∉ (Noted.quietly result).notes := List.not_mem_nil
  have debug (text : String) (inside : note ∈ (Noted.say (.debug text)).notes) : note.level = .debug := by
    rw [List.mem_singleton.1 inside]
    rfl
  rcases Noted.mem_notes_bind inside with inside | ⟨options, -, inside⟩
  · exact absurd inside (quiet _)
  rcases Noted.mem_notes_bind inside with inside | ⟨_, -, inside⟩
  · exact debug _ inside
  rcases Noted.mem_notes_bind inside with inside | ⟨document, -, inside⟩
  · exact absurd inside (quiet _)
  rcases Noted.mem_notes_bind inside with inside | ⟨version, -, inside⟩
  · exact absurd inside (quiet _)
  rcases Noted.mem_notes_bind inside with inside | ⟨_, -, inside⟩
  · exact debug _ inside
  rcases Noted.mem_notes_bind inside with inside | ⟨model, -, inside⟩
  · exact absurd inside (quiet _)
  rcases Noted.mem_notes_bind inside with inside | ⟨_, -, inside⟩
  · exact debug _ inside
  · exact absurd inside (quiet _)

/-- Where notes for debugging are held back, or nothing is styled, loading a model leaves no note that is refused. -/
theorem taken_of_inspected {world : World} {flags : Flags} (arguments : Arguments)
    (calm : flags.verbose = false ∨ (flags.noColor || forbidsStyle world) = true) :
    ∀ note ∈ (inspected world arguments).notes,
      refusal? (Settings.ofFlags world flags.format flags.noColor flags.quiet flags.verbose) note = none := by
  intro note inside
  rcases calm with still | unstyled
  · unfold refusal?
    rw [level_of_inspected inside, Report.isShown, Settings.ofFlags, still]
    rfl
  · have plain : (Settings.ofFlags world flags.format flags.noColor flags.quiet flags.verbose).styled = false :=
      congrArg (!·) unstyled
    rw [Report.refusal_unstyled plain]
    rfl

/-- The note on an API without operations can be printed in every style. -/
theorem refusal_emptyNote (settings : Settings) :
    refusal? settings ⟨.info, "No operations defined in this spec."⟩ = none := by
  have plain : Report.Markup.plain (Report.markup ⟨.info, "No operations defined in this spec."⟩).toList =
      .ok "No operations defined in this spec.".toList := by
    with_unfolding_all rfl
  unfold refusal? Report.diagnostic
  rw [plain]
  cases settings.styled <;> exact ite_self _

theorem print_showOperations (settings : Settings) (model : Model) :
    (print settings (showOperations model)).1.stdout = (if model.operations.isEmpty then "" else
        ended ((Data.table operationHeaders (model.operations.map operationRow)).lines settings.format)) ∧
      (print settings (showOperations model)).2 = .ok () := by
  unfold showOperations
  split
  · have taken : ∀ note ∈ [⟨.info, "No operations defined in this spec."⟩], refusal? settings note = none :=
      List.forall_mem_singleton.2 (refusal_emptyNote settings)
    exact ⟨Report.stdout_print_notes settings [_], Report.result_print_after taken []⟩
  · refine ⟨String.append_empty, rfl⟩

/-- The table of all operations in JSON is read as the list of what it tells of each. -/
theorem read_table (operations : List Operation) :
    Json.read (ended ((Data.table operationHeaders (operations.map operationRow)).lines .json)).toList =
      .ok (.list (operations.map listing)) := by
  have records : (operations.map operationRow).map (Data.recordOf operationHeaders) = operations.map listing := by
    rw [List.map_map]
    exact List.map_congr_left fun op _ => recordOf_operationRow op
  have textual : Json.IsTextual Json.maxDepth (.list (operations.map listing)) := by
    change Json.IsTextual (984 + 1) _
    refine .list fun v inside => ?_
    obtain ⟨op, -, rfl⟩ := List.mem_map.1 inside
    exact isTextual_listing op
  have lines : ended ((Data.table operationHeaders (operations.map operationRow)).lines .json) =
      Json.pretty (.list (operations.map listing)) ++ "\n" := by
    rw [Data.lines, records, ended, List.map_singleton, String.join_cons]
    exact String.append_empty
  rw [lines, String.toList_append]
  exact Json.read_writeIn textual (.indented 0) (List.forall_mem_singleton.2 rfl)

theorem printPerformed_snd {p : Performed} {items : List Item} (shown : p.shown = .ok items) :
    (printPerformed settings p).2 = (print settings (p.notes.map .note ++ items)).2 := by
  unfold printPerformed Report.printNoted
  simp only [shown, id]
  cases print settings (p.notes.map .note ++ items) with
  | mk streams result => cases result <;> rfl

/-- A command whose result is printed ends well. -/
theorem exit_runCommand {world : World} {flags : Flags} {command : Command}
    (printed : (printPerformed (Settings.ofFlags world flags.format flags.noColor flags.quiet flags.verbose)
      (perform (refusal? (Settings.ofFlags world flags.format flags.noColor flags.quiet flags.verbose)) world
        command)).2 = .ok ()) :
    (runCommand world flags command).exit = .ok 0 := by
  unfold runCommand
  dsimp only
  split
  · rfl
  · next here => rw [here] at printed; cases printed

theorem runCommand_operations {world : World} (flags : Flags) {schema : Option String}
    (calm : flags.verbose = false ∨ (flags.noColor || forbidsStyle world) = true)
    (loaded : (inspected world (Command.operations schema).arguments).result = .ok model) :
    (runCommand world flags (.operations schema)).exit = .ok 0 ∧
      (runCommand world flags (.operations schema)).streams.stdout = if model.operations.isEmpty then "" else
        ended ((Data.table operationHeaders (model.operations.map operationRow)).lines flags.format) := by
  have taken := taken_of_inspected (Command.operations schema).arguments calm
  obtain ⟨stdout, done⟩ := print_showOperations
    (Settings.ofFlags world flags.format flags.noColor flags.quiet flags.verbose) model
  have shown (listener : Noted.Listener) :
      (perform listener world (.operations schema)).shown = .ok (showOperations model) := by
    change (Noted.andThen (inspected world _) _).result = _
    rw [Noted.andThen, loaded]
    rfl
  have notes (listener : Noted.Listener) : (perform listener world (.operations schema)).notes =
      (inspected world (Command.operations schema).arguments).notes := by
    change (Noted.andThen (inspected world _) _).notes = _
    rw [Noted.andThen, loaded]
    exact List.append_nil _
  constructor
  · exact exit_runCommand (by rw [printPerformed_snd (shown _), notes, Report.result_print_after taken, done])
  · rw [stdout_runCommand, printPerformed_fst (shown _), notes, Report.stdout_print_after taken, stdout]
    rfl

/-- A world with a description on standard input. -/
private def piped (text : String) : World where
  disk := ⟨[]⟩
  workdir := []
  stdin := text
  responses := []
  environment := []

private theorem inspected_piped {text : String} (document : Value)
    (resolved : Options.resolve (piped text) { schema := some "-" } none = .ok { schemaSource := "-" })
    (read : Document.loadRoot (piped text) "-" = .ok document) (version : Document.version document = .ok "3.0.3")
    (tree : document.IsTree) (shallow : document.depth ≤ Bundle.maxDepth)
    (room : (Api.bundleOf (piped text) "/<stdin>" document).start.hasRoom 20 Bundle.maxSteps = true)
    (done : (Api.bundleOf (piped text) "/<stdin>" document).start.resolveIn 20 = .ok document)
    (isModel : Model.ofBundled document = .ok model) :
    (inspected (piped text) (Command.operations (some "-")).arguments).result = .ok model := by
  have isKey : Reference.documentKey? (piped text).workdir none = some "/<stdin>" := by with_unfolding_all rfl
  have trees : (Api.bundleOf (piped text) "/<stdin>" document).Trees := by
    refine ⟨tree, fun key document found => ?_⟩
    have known := Library.mem_worldKeys_of_answer found
    have keys : Library.worldKeys (piped text) = [] := by with_unfolding_all rfl
    rw [keys] at known
    cases known
  have extracted : Model.extract (piped text) document none = .ok model :=
    Model.extractIn_of_run isKey (Bundle.run_of_resolveIn trees (.of_hasRoom shallow room) done) isModel
  unfold inspected Model.load
  simp only [Api.result_bind, Noted.quietly, Noted.say]
  change (Options.resolve (piped text) { schema := some "-" } none >>= _) = _
  rw [resolved]
  change (Document.loadRoot (piped text) "-" >>= _) = _
  rw [read]
  change (Document.version document >>= fun _ => Model.extract (piped text) document none >>= _) = _
  rw [version]
  change (Model.extract (piped text) document none >>= _) = _
  rw [extracted]
  rfl

private def vacantText : String := "\x7b\"openapi\": \"3.0.3\", \"paths\": \x7b\x7d\x7d"

private theorem vacant_loaded : (inspected (piped vacantText) (Command.operations (some "-")).arguments).result =
    .ok ⟨[], none, none, none⟩ := by
  refine inspected_piped (.record [("openapi", .text "3.0.3"), ("paths", .record [])])
    (by with_unfolding_all rfl) ?_ ?_ (by decide) (by decide) ?_ ?_ ?_ <;>
  with_unfolding_all rfl

private def petsText : String :=
  "\x7b\"openapi\": \"3.0.3\", \"paths\": \x7b\"/pets\": \x7b\"get\": \x7b\"operationId\": \"listPets\", " ++
    "\"tags\": [\"größe\"]\x7d, \"post\": \x7b\"operationId\": \"addPet\"\x7d\x7d\x7d\x7d"

private def petsDocument : Value := .record [("openapi", .text "3.0.3"), ("paths", .record [("/pets", .record
  [("get", .record [("operationId", .text "listPets"), ("tags", .list [.text "größe"])]),
    ("post", .record [("operationId", .text "addPet")])])])]

private def petsModel : Model where
  operations := [⟨"größe", "listPets", .get, "/pets", none, none, [], none, []⟩,
    ⟨"default", "addPet", .post, "/pets", none, none, [], none, []⟩]
  title := none
  version := none
  baseUrl := none

set_option maxRecDepth 8000 in
private theorem pets_loaded : (inspected (piped petsText) (Command.operations (some "-")).arguments).result =
    .ok petsModel := by
  refine inspected_piped petsDocument (by with_unfolding_all rfl) ?_ ?_ (by decide) (by decide)
    ?_ ?_ ?_ <;>
  with_unfolding_all rfl

end CommandLine

end QueryHooks
