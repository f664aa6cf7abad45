import QueryHooks.Proofs.Plan.Places
import QueryHooks.Proofs.Report.Printed
import QueryHooks.Proofs.Write.Prefix

/-!
Trials. A run that fails at the description, and a run on trial, leave the disk as it is; and a trial tells
what a run in earnest would do: both make the same plan, and the run in earnest writes it file by file.
-/

namespace QueryHooks

open QueryHooks.Report (Settings Item refusal? print ended)
open QueryHooks.CommandLine (Flags Performed performGenerate showGeneration)

variable {world : World} {settings : Settings} {options : Options} {listener : Noted.Listener}

/-! Writing is no fault of the description either. -/

namespace Write

variable {host : Host} {workdir : Place} {outDir : String} {planned : List PlannedFile}

theorem blameless_fill (target : Path) (temporary : Place) (contents : String) (m : Machine) :
    Blameless (fill host target temporary contents m).2 := by
  unfold fill
  split
  · exact .unexpected
  · dsimp only
    split
    · exact fun problem same => by cases same
    · exact .ok _

theorem blameless_replace (directory : Place) (target : Path) (contents : String) (m : Machine) :
    Blameless (replace host directory target contents m).2 := by
  unfold replace
  dsimp only
  split
  · exact .unexpected
  split
  · exact fun problem same => by cases same
  next opened temporary _ =>
  split
  · next filled failure fills =>
      have blameless : Blameless (fill host target temporary contents opened).2 := blameless_fill _ _ _ _
      rw [fills] at blameless
      split
      · exact fun problem same => by cases same
      · exact blameless
  split
  · exact fun problem same => by cases same
  · exact .ok _

theorem blameless_file (target : Path) (contents : String) (m : Machine) :
    Blameless (file host workdir target contents m).2 := by
  unfold file
  split
  · exact .unexpected
  split
  · exact .unexpected
  split
  · exact fun problem same => by cases same
  · exact blameless_replace _ _ _ _

variable {write : Path → String → Machine → Machine × Except Failure Unit}

theorem blameless_course (writes : ∀ path contents m, Blameless (write path contents m).2)
    (hears : ∀ note problem, listener note ≠ some (.spec problem)) (planned : List PlannedFile) (m : Machine) :
    Blameless (course write listener outDir planned m).written := by
  induction planned generalizing m with
  | nil => exact .ok _
  | cons first rest ih =>
      have blameless := writes (target outDir first) first.contents m
      rw [course]
      dsimp only
      split
      · next written =>
          rw [written] at blameless
          exact fun problem same => blameless problem (congrArg Except.error (Except.error.inj same))
      · split
        · next failure refused =>
            exact fun problem same => hears _ problem (refused.trans (congrArg some (Except.error.inj same)))
        · exact (ih _).map _

end Write

namespace Noted

variable {α β : Type}

theorem heard_map (computed : Noted α) (f : α → β) :
    (Noted.mk computed.notes (computed.result.map f)).heard listener =
      ⟨(computed.heard listener).notes, (computed.heard listener).result.map f⟩ := by
  unfold heard
  dsimp only
  split <;> rfl

/-- What a listener hears without failure it takes note by note. -/
theorem hear_ok {notes notes' : List Note} (done : listener.hear notes = (notes', .ok ())) :
    notes' = notes ∧ ∀ note ∈ notes, listener note = none := by
  induction notes generalizing notes' with
  | nil =>
      cases done
      exact ⟨rfl, fun _ impossible => absurd impossible List.not_mem_nil⟩
  | cons note rest ih =>
      rw [Listener.hear] at done
      split at done
      · cases done
      · next taken =>
          generalize below : listener.hear rest = heard at done
          obtain ⟨others, result⟩ := heard
          cases done
          obtain ⟨same, all⟩ := ih below
          refine ⟨congrArg (note :: ·) same, fun note' inside => ?_⟩
          rcases List.mem_cons.1 inside with rfl | later
          · exact taken
          · exact all note' later

theorem notes_of_heard {computed : Noted α} {a : α} (done : (computed.heard listener).result = .ok a) :
    ∀ note ∈ (computed.heard listener).notes, listener note = none := by
  unfold heard at done ⊢
  split at done
  · next notes here =>
      obtain ⟨rfl, taken⟩ := hear_ok here
      exact taken
  · cases done

end Noted

/-- A plan tells only at its end whether it is a trial. -/
theorem Generation.planned_dryRun (world : World) (options : Options) (dryRun : Bool) :
    planned world { options with dryRun := dryRun } =
      ⟨(planned world options).notes,
        (planned world options).result.map fun generation => { generation with dryRun := dryRun }⟩ := by
  simp only [planned, bind, Noted.andThen]
  cases (Api.Model.load world options.schemaSource).result with
  | error failure => rfl
  | ok model =>
      dsimp only
      cases (Integration.load world options.openapiTsConfig).result with
      | error failure => rfl
      | ok integration => rfl

/-- The plan of a run, as far as a listener lets it come about. -/
def Generation.prepared (listener : Noted.Listener) (world : World) (options : Options) : Noted Generation :=
  (planned world options).heard listener

namespace Generation

variable {generation : Generation} {failure : Failure}

theorem prepared_dryRun (listener : Noted.Listener) (world : World) (options : Options) (dryRun : Bool) :
    prepared listener world { options with dryRun := dryRun } =
      ⟨(prepared listener world options).notes,
        (prepared listener world options).result.map fun generation => { generation with dryRun := dryRun }⟩ := by
  rw [prepared, planned_dryRun, Noted.heard_map]
  rfl

/-- A plan has nothing written, and keeps the output directory of the options. -/
theorem of_planned (done : (planned world options).result = .ok generation) :
    generation.written = [] ∧ generation.outDir = options.outDir ∧ generation.dryRun = options.dryRun := by
  simp only [planned, bind, Noted.andThen] at done
  cases loaded : (Api.Model.load world options.schemaSource).result with
  | error failure => rw [loaded] at done; cases done
  | ok model =>
      rw [loaded] at done
      dsimp only at done
      cases read : (Integration.load world options.openapiTsConfig).result with
      | error failure => rw [read] at done; cases done
      | ok integration =>
          rw [read] at done
          cases done
          exact ⟨rfl, rfl, rfl⟩

theorem of_prepared (done : (prepared listener world options).result = .ok generation) :
    generation.written = [] ∧ generation.outDir = options.outDir ∧ generation.dryRun = options.dryRun := by
  unfold prepared Noted.heard at done
  split at done
  · exact of_planned done
  · cases done

end Generation

open Generation (prepared)

section Generate

variable {generation : Generation} {failure : Failure}

theorem generate_of_unprepared (failed : (prepared listener world options).result = .error failure) :
    generate listener world options =
      ⟨world.disk, (prepared listener world options).notes, .error failure⟩ := by
  unfold prepared at failed
  unfold generate
  simp only [failed]
  rfl

theorem generate_on_trial (planned : (prepared listener world options).result = .ok generation)
    (trial : options.dryRun = true) :
    generate listener world options =
      ⟨world.disk, (prepared listener world options).notes ++ [.debug "Dry run: no files written"],
        .ok generation⟩ := by
  unfold prepared at planned
  unfold generate
  simp only [planned, trial, if_true]
  rfl

theorem generate_in_earnest (planned : (prepared listener world options).result = .ok generation)
    (earnest : options.dryRun = false) :
    generate listener world options =
      let outcome := Write.files listener world.disk world.workdir options.outDir generation.files world.host
      ⟨outcome.disk, (prepared listener world options).notes ++ outcome.notes,
        outcome.written.map fun paths =>
          { generation with written := paths.map fun p => Path.placeText (p.resolve world.workdir) }⟩ := by
  unfold prepared at planned
  unfold generate
  simp only [planned, earnest, Bool.false_eq_true, if_false]
  rfl

end Generate

/-- What a run in earnest has written, and what a trial of it finds. -/
theorem trial_of_earnest {g : Generation}
    (done : (generate listener world { options with dryRun := false }).result = .ok g) :
    g.written = g.files.map (fun file => Path.placeText (file.place world.workdir options.outDir)) ∧
      (prepared listener world { options with dryRun := true }).result =
        .ok { g with written := [], dryRun := true } := by
  cases planned : (prepared listener world { options with dryRun := false }).result with
  | error failure =>
      rw [generate_of_unprepared planned] at done
      cases done
  | ok generation =>
      rw [generate_in_earnest planned rfl] at done
      dsimp only at done
      cases written : (Write.files listener world.disk world.workdir options.outDir generation.files
          world.host).written with
      | error failure => rw [written] at done; cases done
      | ok paths =>
          rw [written] at done
          cases done
          obtain ⟨unwritten, -, -⟩ := Generation.of_prepared planned
          constructor
          · rw [Write.written_course written]
            exact List.map_map
          · have again := Generation.prepared_dryRun listener world { options with dryRun := false } true
            rw [planned] at again
            rw [again, ← unwritten]
            rfl

theorem disk_of_refused (settings : Settings) {problem : SpecProblem}
    (failed : (generate (refusal? settings) world options).result = .error (.spec problem)) :
    (generate (refusal? settings) world options).disk = world.disk := by
  cases planned : (prepared (refusal? settings) world options).result with
  | error failure => rw [generate_of_unprepared planned]
  | ok generation =>
      cases mode : options.dryRun with
      | true => rw [generate_on_trial planned mode]
      | false =>
          rw [generate_in_earnest planned mode] at failed
          have blameless : Blameless (Write.files (refusal? settings) world.disk world.workdir options.outDir
              generation.files world.host).written :=
            Write.blameless_course (fun _ _ _ => Write.blameless_file _ _ _) (Report.refusal_ne_spec settings) _ _
          exact absurd failed (blameless.map _ problem)

theorem disk_of_trial (trial : options.dryRun = true) : (generate listener world options).disk = world.disk := by
  cases planned : (prepared listener world options).result with
  | error failure => rw [generate_of_unprepared planned]
  | ok generation => rw [generate_on_trial planned trial]

/-! The command -/

theorem Options.ofLayered_dryRun (l : Layered) (dryRun dryRun' : Bool) :
    ofLayered l dryRun = (ofLayered l dryRun').map fun options => { options with dryRun := dryRun } := by
  unfold ofLayered
  split
  · rfl
  · dsimp only
    split <;> rfl

/-- A command on trial resolves to the options of the command in earnest. -/
theorem Options.resolve_dryRun {arguments : Arguments} {directory : Option String}
    (resolved : resolve world { arguments with dryRun := false } directory = .ok { options with dryRun := false }) :
    resolve world { arguments with dryRun := true } directory = .ok { options with dryRun := true } := by
  unfold resolve at resolved ⊢
  cases read : project world directory with
  | error failure => rw [read] at resolved; cases resolved
  | ok fields =>
      rw [read] at resolved
      have earnest : ofLayered (layered world (fields.getD []) { arguments with dryRun := false }) false =
        .ok { options with dryRun := false } := resolved
      change ofLayered (layered world (fields.getD []) { arguments with dryRun := false }) true = _
      rw [ofLayered_dryRun _ true false, earnest]
      rfl

/-- The note on a trial can always be printed. -/
theorem refusal_trialNote (settings : Settings) :
    refusal? settings (.debug "Dry run: no files written") = none := by
  have plain : Report.Markup.plain (Report.markup (.debug "Dry run: no files written")).toList =
      .ok " Dry run: no files written".toList := by
    with_unfolding_all rfl
  unfold refusal? Report.diagnostic
  rw [plain]
  cases settings.styled <;> exact ite_self _

/-- A trial from the command line lists the paths of its plan, even if its last note cannot be printed. -/
theorem stdout_of_trial {flags : Flags} {arguments : Arguments} {generation : Generation}
    (resolved : Options.resolve world arguments none = .ok { options with dryRun := true })
    (planned : (prepared (refusal? (Settings.ofFlags world flags.format flags.noColor flags.quiet flags.verbose))
      world { options with dryRun := true }).result = .ok generation) :
    (CommandLine.runCommand world flags (.generate arguments)).streams.stdout =
      ended (generation.files.map fun file => (Write.target options.outDir file).text) := by
  rw [CommandLine.stdout_runCommand]
  generalize Settings.ofFlags world flags.format flags.noColor flags.quiet flags.verbose = settings at planned ⊢
  obtain ⟨-, sameOut, sameMode⟩ := Generation.of_prepared planned
  have performed : CommandLine.perform (refusal? settings) world (.generate arguments) =
      ⟨world.disk, (prepared (refusal? settings) world { options with dryRun := true }).notes ++
        [.debug "Dry run: no files written"], .ok (showGeneration generation)⟩ := by
    change performGenerate (refusal? settings) world arguments = _
    unfold performGenerate
    simp only [resolved, generate_on_trial planned rfl]
    rfl
  obtain ⟨last, shown⟩ : ∃ last, showGeneration generation =
      (generation.files.map fun file => (Write.target options.outDir file).text).map
        (fun line => Item.data (.line line)) ++ [.note last] := by
    unfold showGeneration
    rw [sameMode, if_pos rfl, sameOut, List.map_map]
    exact ⟨_, rfl⟩
  -- The notes before the paths were all printed, or there would be no plan; the last one comes after them.
  have taken : ∀ note ∈ (prepared (refusal? settings) world { options with dryRun := true }).notes ++
      [.debug "Dry run: no files written"],
      refusal? settings note = none := by
    intro note inside
    rcases List.mem_append.1 inside with early | late
    · exact Noted.notes_of_heard planned note early
    · rw [List.mem_singleton.1 late]
      exact refusal_trialNote settings
  rw [performed, CommandLine.printPerformed_fst rfl, Report.stdout_print_after taken, shown,
    Report.stdout_print_lines]
  have none : (print settings [.note last]).1.stdout = "" := Report.stdout_print_notes settings [last]
  rw [none]
  exact String.append_empty

/-- A world whose description is of an older generation. -/
private def outdated : World where
  disk := ⟨[(["api.json"], .file (Text.Utf8.encode "\x7b\"swagger\": \"2.0\"\x7d".toList))]⟩
  workdir := []
  stdin := ""
  responses := []
  environment := []

private theorem unprepared_outdated :
    (prepared (refusal? (Settings.ofFlags outdated .plain false false false)) outdated
      { schemaSource := "api.json" }).result = .error (.spec (.version (.swagger "2.0"))) := by
  with_unfolding_all rfl

end QueryHooks
