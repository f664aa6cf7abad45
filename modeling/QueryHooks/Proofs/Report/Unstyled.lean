import Mathlib.Data.List.Basic
import QueryHooks.Proofs.Report.Printed

/-!
Runs without styles. Every note can be printed there, so a run prints all that there is to say: the data on one
stream, and on the other those of its notes that its settings let through.
-/

namespace QueryHooks

namespace Report

variable {settings : Settings}

def Item.note? : Item → Option Note
  | .data _ => none
  | .note n => some n

def Item.dataLines (format : Format) : Item → List String
  | .data d => d.lines format
  | .note _ => []

/-- The notes that settings let through. -/
def heard (settings : Settings) (notes : List Note) : List Note := notes.filter fun note => isShown settings note.level

theorem ended_append (first second : List String) : ended (first ++ second) = ended first ++ ended second := by
  induction first with
  | nil => exact String.empty_append.symm
  | cons line rest ih => rw [List.cons_append, ended_cons, ended_cons, ih, ← String.append_assoc]

/-- What is printed on the two streams where nothing is styled. -/
def printed (settings : Settings) (items : List Item) : Streams where
  stdout := ended (items.flatMap (Item.dataLines settings.format))
  stderr := ended ((heard settings (items.filterMap Item.note?)).map plainText)

theorem printed_append (settings : Settings) (first second : List Item) :
    printed settings (first ++ second) = printed settings first ++ printed settings second := by
  unfold printed heard
  rw [List.flatMap_append, List.filterMap_append, List.filter_append, List.map_append, ended_append, ended_append]
  rfl

theorem printItem_unstyled (unstyled : settings.styled = false) (item : Item) :
    printItem settings item = .ok (printed settings [item]) := by
  cases item with
  | data d =>
      unfold printed
      rw [List.flatMap_singleton]
      rfl
  | note n =>
      have plain : diagnostic settings n = .ok [plainText n] := by
        rw [diagnostic, unstyled, if_neg Bool.false_ne_true]
      have alone : heard settings ([Item.note n].filterMap Item.note?) =
          bif isShown settings n.level then [n] else [] := List.filter_singleton
      unfold printed
      rw [printItem, plain, alone]
      cases isShown settings n.level <;> rfl

theorem print_unstyled (unstyled : settings.styled = false) (items : List Item) :
    print settings items = (printed settings items, .ok ()) := by
  induction items with
  | nil => rfl
  | cons item rest ih =>
      have split := printed_append settings [item] rest
      rw [List.singleton_append] at split
      rw [print, printItem_unstyled unstyled, ih, split]

theorem refusal_unstyled (unstyled : settings.styled = false) : refusal? settings = Noted.Listener.open := by
  funext note
  unfold refusal? diagnostic
  rw [unstyled]
  exact ite_self _

end Report

namespace CommandLine

open QueryHooks.Report (Settings Item ended printed forbidsStyle)

variable {settings : Settings}

/-- What a command has to say at its end: what it shows, or what it blames. A report on what is unprintable is empty. -/
def Performed.closing (p : Performed) : List Item :=
  match p.shown with
  | .ok items => items
  | .error failure => if failure == .unprintable then [] else blame failure

/-- All that a command has to say. -/
def Performed.items (p : Performed) : List Item := p.notes.map .note ++ p.closing

def Performed.told (p : Performed) : List Note := p.items.filterMap Item.note?

def Performed.exit (p : Performed) : Except Failure Nat :=
  match p.shown with
  | .ok _ => .ok 0
  | .error failure => if failure == .unprintable then .error failure else .ok failure.exitCode

theorem report_unstyled (unstyled : settings.styled = false) (failure : Failure) :
    report settings failure =
      if failure == .unprintable then (.empty, .error failure)
      else (printed settings (blame failure), .ok failure.exitCode) := by
  unfold report
  rw [Report.print_unstyled unstyled]

/-- Without styles a run of a command prints all that there is to say, and nothing stands in its way. -/
theorem runCommand_unstyled {world : World} (flags : Flags)
    (unstyled : (flags.noColor || forbidsStyle world) = true) (command : Command) :
    let p := perform .open world command
    runCommand world flags command =
      ⟨p.disk, p.exit,
        printed (Settings.ofFlags world flags.format flags.noColor flags.quiet flags.verbose) p.items⟩ := by
  unfold runCommand
  generalize isSettings : Settings.ofFlags world flags.format flags.noColor flags.quiet flags.verbose = settings
  have plain : settings.styled = false := by
    rw [← isSettings]
    exact congrArg (!·) unstyled
  dsimp only
  rw [Report.refusal_unstyled plain]
  generalize perform .open world command = p
  unfold printPerformed Report.printNoted Performed.items Performed.closing Performed.exit
  simp only [Report.print_unstyled plain]
  cases p.shown with
  | ok items => rfl
  | error failure =>
      dsimp only [Except.map]
      rw [report_unstyled plain, List.append_nil, Report.printed_append]
      cases failure == .unprintable <;> rfl

theorem dataLines_notes (format : Report.Format) (notes : List Note) :
    (notes.map Item.note).flatMap (Item.dataLines format) = [] := by
  induction notes with
  | nil => rfl
  | cons note rest ih => exact ih

/-- All data is in what a command shows at its end. -/
theorem dataLines_items (p : Performed) (format : Report.Format) :
    p.items.flatMap (Item.dataLines format) = p.closing.flatMap (Item.dataLines format) := by
  rw [Performed.items, List.flatMap_append, dataLines_notes, List.nil_append]

theorem dataLines_of_failed {p : Performed} (failed : p.exit ≠ .ok 0) (format : Report.Format) :
    p.closing.flatMap (Item.dataLines format) = [] := by
  unfold Performed.exit at failed
  unfold Performed.closing
  cases shown : p.shown with
  | ok items => rw [shown] at failed; exact absurd rfl failed
  | error failure =>
      dsimp only
      split
      · rfl
      · unfold blame
        split
        · exact dataLines_notes format [⟨.error, _⟩, ⟨.error, _⟩]
        · exact dataLines_notes format [⟨.error, _⟩]

theorem stdout_unstyled {world : World} (flags : Flags) (unstyled : (flags.noColor || forbidsStyle world) = true)
    (command : Command) :
    (runCommand world flags command).streams.stdout =
      ended ((perform .open world command).closing.flatMap (Item.dataLines flags.format)) := by
  rw [← dataLines_items]
  exact congrArg (·.streams.stdout) (runCommand_unstyled flags unstyled command)

end CommandLine

end QueryHooks
