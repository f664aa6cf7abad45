import Mathlib.Data.List.Basic
import Mathlib.Data.List.Flatten
import QueryHooks.Proofs.CommandLine.Flags
import QueryHooks.Proofs.Report.Unstyled
import QueryHooks.Proofs.Text.Pieces

/-!
How loud a run is. Without styles every note can be printed, so a run does and shows the same however loud it
is. What it tells is one list of notes, and quiet and verbose only choose among them.
-/

namespace QueryHooks

/-- Whether a note is told however quiet a run is. -/
def Level.isLoud : Level → Bool
  | .warning => true
  | .error => true
  | _ => false

namespace Report

variable {settings settings' : Settings} {note : Note} {notes : List Note}

/-- The lines of a text. A text that ends in a line break has an empty line behind it. -/
def linesOf (text : String) : List (List Char) := Text.splitOn '\n' text.toList

theorem isShown_of_isLoud {level : Level} (loud : level.isLoud = true) : isShown settings level = true := by
  cases level <;> first | rfl | cases loud

theorem isShown_mono (quiet : settings'.quiet ≤ settings.quiet) (verbose : settings.verbose ≤ settings'.verbose)
    {level : Level} (shown : isShown settings level = true) : isShown settings' level = true := by
  have louder : settings.quiet = false → settings'.quiet = false := fun loud => by
    rw [loud] at quiet
    exact Bool.eq_false_of_le_false quiet
  cases level with
  | debug => exact Bool.eq_true_of_true_le (shown ▸ verbose)
  | warning => rfl
  | error => rfl
  | info => exact Bool.not_eq_true' _ ▸ louder (Bool.not_eq_true' _ ▸ shown)
  | success => exact Bool.not_eq_true' _ ▸ louder (Bool.not_eq_true' _ ▸ shown)
  | suggestion => exact Bool.not_eq_true' _ ▸ louder (Bool.not_eq_true' _ ▸ shown)

theorem heard_sublist (quiet : settings'.quiet ≤ settings.quiet) (verbose : settings.verbose ≤ settings'.verbose)
    (notes : List Note) : (heard settings notes).Sublist (heard settings' notes) :=
  List.monotone_filter_right notes fun _ shown => isShown_mono quiet verbose shown

theorem loud_of_heard (settings : Settings) (notes : List Note) :
    (heard settings notes).filter (·.level.isLoud) = notes.filter (·.level.isLoud) := by
  unfold heard
  rw [List.filter_filter]
  refine List.filter_congr fun note _ => ?_
  cases loud : note.level.isLoud with
  | false => rfl
  | true => rw [isShown_of_isLoud loud]; rfl

/-! Lines -/

theorem linesOf_ended (texts : List String) : linesOf (ended texts) = texts.flatMap linesOf ++ [[]] := by
  induction texts with
  | nil => rfl
  | cons text rest ih =>
      have ends : (text ++ "\n" ++ ended rest).toList = text.toList ++ '\n' :: (ended rest).toList := by
        rw [String.toList_append, String.toList_append, List.append_assoc]
        rfl
      rw [ended_cons, linesOf, ends, Text.splitOn_append_mark_append]
      change linesOf text ++ linesOf (ended rest) = _
      rw [ih, List.flatMap_cons, List.append_assoc]

end Report

namespace CommandLine

open QueryHooks.Report (Settings Item heard linesOf ended plainText forbidsStyle refusal?)

variable {settings : Settings}

/-- A failure of a command keeps its data back, with styles or without. -/
theorem stdout_of_failed {world : World} {flags : Flags} {command : Command} {failure : Failure}
    (failed : (perform (refusal? (Settings.ofFlags world flags.format flags.noColor flags.quiet flags.verbose)) world
      command).shown = .error failure) :
    (runCommand world flags command).streams.stdout = "" := by
  rw [stdout_runCommand]
  unfold printPerformed Report.printNoted
  rw [failed]
  have silent := Report.stdout_print_notes
    (Settings.ofFlags world flags.format flags.noColor flags.quiet flags.verbose)
    (perform (refusal? (Settings.ofFlags world flags.format flags.noColor flags.quiet flags.verbose)) world
      command).notes
  dsimp only
  rw [List.append_nil]
  split
  · next printed => rw [printed] at silent; exact silent
  · next printed => rw [printed] at silent; exact silent

/-- A world whose description is of an older generation. -/
private def bygone : World where
  disk := ⟨[(["api.json"], .file (Text.Utf8.encode "\x7b\"swagger\": \"2.0\"\x7d".toList))]⟩
  workdir := []
  stdin := ""
  responses := []
  environment := []

private theorem told_bygone : (perform .open bygone (.operations (some "api.json"))).told =
    [.debug "Loading spec from api.json",
      ⟨.error, "Swagger 2.0 is not supported. Only OpenAPI 3.0.x and 3.1.x are supported. " ++
        "Consider converting with https://converter.swagger.io"⟩] := by
  with_unfolding_all rfl

private theorem exit_bygone :
    (runCommand bygone { noColor := true } (.operations (some "api.json"))).exit = .ok 7 := by
  with_unfolding_all rfl

end CommandLine

end QueryHooks
