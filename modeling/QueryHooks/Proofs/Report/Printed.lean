import QueryHooks.CommandLine.Program

/-!
What is printed where. Data lines go to standard output as they are, notes never do, and a note that
cannot be printed is no fault of the description.
-/

namespace QueryHooks

/-- Whether a computation never finds fault with a description. -/
def Blameless {α : Type} (computed : Except Failure α) : Prop := ∀ problem, computed ≠ .error (.spec problem)

namespace Blameless

variable {α β : Type} {computed : Except Failure α}

theorem ok (a : α) : Blameless (.ok a : Except Failure α) := fun _ same => by cases same

theorem unexpected : Blameless (.error .unexpected : Except Failure α) := fun _ same => by cases same

theorem bind (blameless : Blameless computed) {next : α → Except Failure β} (goesOn : ∀ a, Blameless (next a)) :
    Blameless (computed >>= next) := by
  intro problem same
  cases isComputed : computed with
  | error failure =>
      rw [isComputed] at same
      exact blameless problem (isComputed.trans (congrArg Except.error (Except.error.inj same)))
  | ok a =>
      rw [isComputed] at same
      exact goesOn a problem same

theorem map (blameless : Blameless computed) (f : α → β) : Blameless (computed.map f) :=
  blameless.bind fun a => .ok (f a)

end Blameless

namespace Report

variable {settings : Settings} {note : Note} {failure : Failure}

namespace Markup

theorem blameless_styleName (chars : List Char) : Blameless (styleName chars) := by
  unfold styleName
  split
  · exact .ok _
  · exact .unexpected

theorem blameless_afterClosing (chars : List Char) (active : List Tag) : Blameless (afterClosing chars active) := by
  unfold afterClosing
  refine Blameless.bind ?_ fun found => ?_
  · split
    · exact .ok _
    · exact .ok _
    · exact (blameless_styleName _).map _
  · split
    · exact fun problem same => by cases same
    · split
      · exact .ok _
      · exact .unexpected

theorem blameless_after (chars : List Char) (active : List Tag) : Blameless (after chars active) := by
  unfold after
  dsimp only
  split
  · exact blameless_afterClosing _ _
  · exact (blameless_styleName _).map _

theorem blameless_plainOf (active : List Tag) (pieces : List Piece) : Blameless (plainOf active pieces) := by
  induction pieces generalizing active with
  | nil => exact .ok _
  | cons piece rest ih =>
      cases piece with
      | literal chars => exact (ih active).map _
      | tag chars =>
          rw [plainOf]
          have opened := blameless_after chars active
          cases isOpened : after chars active with
          | error failure =>
              intro problem same
              exact opened problem (isOpened.trans (congrArg Except.error (Except.error.inj same)))
          | ok active => exact ih active

end Markup

theorem blameless_diagnostic (settings : Settings) (note : Note) : Blameless (diagnostic settings note) := by
  unfold diagnostic
  split
  · exact (Markup.blameless_plainOf _ _).map _
  · exact .ok _

/-- A note that cannot be printed is no fault of the description. -/
theorem refusal_ne_spec (settings : Settings) (note : Note) (problem : SpecProblem) :
    refusal? settings note ≠ some (.spec problem) := by
  unfold refusal?
  split
  · split
    · exact fun same => by cases same
    · next failure failed =>
        intro same
        exact blameless_diagnostic settings note problem (failed.trans (congrArg Except.error (Option.some.inj same)))
  · exact fun same => by cases same

/-! Notes and lines on the two streams -/

theorem ended_cons (line : String) (lines : List String) : ended (line :: lines) = line ++ "\n" ++ ended lines := by
  rw [ended, List.map_cons, String.join_cons, ended]

theorem stdout_append (first second : Streams) : (first ++ second).stdout = first.stdout ++ second.stdout := rfl

theorem stdout_printItem_note {printed : Streams} (done : printItem settings (.note note) = .ok printed) :
    printed.stdout = "" := by
  rw [printItem] at done
  split at done
  · cases lines : diagnostic settings note with
    | error failure => rw [lines] at done; cases done
    | ok lines' => rw [lines] at done; cases done; rfl
  · cases done
    rfl

/-- A note is printed exactly if it is not refused. -/
theorem printItem_note_ok (taken : refusal? settings note = none) :
    ∃ printed, printItem settings (.note note) = .ok printed := by
  rw [printItem]
  unfold refusal? at taken
  split at taken
  · next shown =>
      rw [if_pos shown]
      split at taken
      · next lines here =>
          rw [here]
          exact ⟨_, rfl⟩
      · cases taken
  · next hidden =>
      rw [if_neg hidden]
      exact ⟨_, rfl⟩

/-- Notes leave nothing on standard output, whether or not all of them can be printed. -/
theorem stdout_print_notes (settings : Settings) (notes : List Note) :
    (print settings (notes.map .note)).1.stdout = "" := by
  induction notes with
  | nil => rfl
  | cons note rest ih =>
      rw [List.map_cons, print]
      split
      · rfl
      · next printed done =>
          change (printed ++ (print settings (rest.map .note)).1).stdout = ""
          rw [stdout_append, stdout_printItem_note done, ih]
          rfl

/-- Behind notes that are taken, standard output goes on. -/
theorem stdout_print_after {notes : List Note} (taken : ∀ note ∈ notes, refusal? settings note = none)
    (items : List Item) :
    (print settings (notes.map .note ++ items)).1.stdout = (print settings items).1.stdout := by
  induction notes with
  | nil => rfl
  | cons note rest ih =>
      obtain ⟨printed, done⟩ := printItem_note_ok (taken note List.mem_cons_self)
      rw [List.map_cons, List.cons_append, print, done]
      change (printed ++ (print settings (rest.map .note ++ items)).1).stdout = _
      rw [stdout_append, stdout_printItem_note done, ih fun note inside => taken note (List.mem_cons_of_mem _ inside)]
      exact String.empty_append

theorem stdout_print_lines (settings : Settings) (lines : List String) (items : List Item) :
    (print settings (lines.map (fun line => .data (.line line)) ++ items)).1.stdout =
      ended lines ++ (print settings items).1.stdout := by
  induction lines with
  | nil => exact String.empty_append.symm
  | cons line rest ih =>
      have alone : ended [line] = line ++ "\n" := (ended_cons line []).trans String.append_empty
      rw [List.map_cons, List.cons_append, print]
      change ended [line] ++ (print settings (rest.map (fun line => .data (.line line)) ++ items)).1.stdout = _
      rw [alone, ih, ended_cons, ← String.append_assoc]

end Report

namespace CommandLine

open QueryHooks.Report (Settings Item print stdout_append stdout_print_notes)

theorem stdout_blame (settings : Settings) (failure : Failure) :
    (print settings (blame failure)).1.stdout = "" := by
  unfold blame
  split
  · exact stdout_print_notes settings [⟨.error, _⟩, ⟨.error, _⟩]
  · exact stdout_print_notes settings [⟨.error, _⟩]

/-- The report on a failure leaves nothing on standard output. -/
theorem stdout_report (settings : Settings) (failure : Failure) : (report settings failure).1.stdout = "" := by
  have blamed := stdout_blame settings failure
  unfold report
  split
  · rfl
  · split
    · next printed => rw [printed] at blamed; exact blamed
    · next streams other printed =>
        rw [printed] at blamed
        split
        · exact blamed
        · rw [stdout_append, blamed, stdout_blame]
          rfl

/-- What a run of a command leaves on standard output is what its result shows there. -/
theorem stdout_runCommand (world : World) (flags : Flags) (command : Command) :
    let settings := Settings.ofFlags world flags.format flags.noColor flags.quiet flags.verbose
    (runCommand world flags command).streams.stdout =
      (printPerformed settings (perform (Report.refusal? settings) world command)).1.stdout := by
  intro settings
  unfold runCommand
  dsimp only
  split
  · next printed => rw [printed]
  · next streams failure printed =>
      rw [printed]
      change (streams ++ (report settings failure).1).stdout = streams.stdout
      rw [stdout_append, stdout_report]
      exact String.append_empty

theorem printPerformed_fst {settings : Settings} {p : Performed} {items : List Item} (shown : p.shown = .ok items) :
    (printPerformed settings p).1 = (print settings (p.notes.map .note ++ items)).1 := by
  unfold printPerformed Report.printNoted
  simp only [shown, id]
  cases print settings (p.notes.map .note ++ items) with
  | mk streams result => cases result <;> rfl

end CommandLine

end QueryHooks
