import QueryHooks.Noted
import QueryHooks.Report.Fitting
import QueryHooks.Report.Markup
import QueryHooks.Text.Integer
import QueryHooks.World

/-! How a run reports: the format of its data, and which notes it makes. -/

namespace QueryHooks.Report

inductive Format
  | json
  | plain
deriving DecidableEq, Repr

def Format.text : Format → String
  | .json => "json"
  | .plain => "plain"

structure Settings where
  format : Format
  quiet : Bool
  verbose : Bool
  styled : Bool
  width : Nat
deriving DecidableEq, Repr

def forbidsStyle (world : World) : Bool :=
  (world.setting? "NO_COLOR").isSome || world.setting? "TERM" == some "dumb"

/-- The width of a terminal that does not tell it. -/
def usualWidth : Nat := 80

def widthOf (world : World) : Nat :=
  match world.setting? "COLUMNS" with
  | none => usualWidth
  | some text =>
      if text.toList.all Text.isDigit then ((Text.Integer.read? 10 text.toList).getD (Int.ofNat usualWidth)).toNat
      else usualWidth

def Settings.ofFlags (world : World) (format : Format) (noColor quiet verbose : Bool) : Settings :=
  ⟨format, quiet, verbose, !(noColor || forbidsStyle world), widthOf world⟩

end QueryHooks.Report

/-! Notes on standard error. -/

namespace QueryHooks.Report

/-- Whether settings let a note through: quiet runs keep warnings and errors, and only verbose ones debug. -/
def isShown (settings : Settings) : Level → Bool
  | .debug => settings.verbose
  | .info => !settings.quiet
  | .success => !settings.quiet
  | .suggestion => !settings.quiet
  | .warning => true
  | .error => true

def plainText (note : Note) : String :=
  match note.level with
  | .debug => "[debug] " ++ note.text
  | .info => note.text
  | .success => note.text
  | .suggestion => "→ " ++ note.text
  | .warning => "Warning: " ++ note.text
  | .error => "Error: " ++ note.text

/-- A note as markup. The mark of a debug note is itself a tag. -/
def markup (note : Note) : String :=
  match note.level with
  | .debug => "[dim][debug] " ++ note.text ++ "[/dim]"
  | .info => note.text
  | .success => "[green]" ++ note.text ++ "[/green]"
  | .suggestion => "[dim]→ " ++ note.text ++ "[/dim]"
  | .warning => "[yellow]Warning:[/yellow] " ++ note.text
  | .error => "[bold red]Error:[/bold red] " ++ note.text

/--
The lines of a note. Styled notes are markup that is fitted into the width, and where nothing can show styles
their plain text remains.
-/
def diagnostic (settings : Settings) (note : Note) : Except Failure (List String) :=
  if settings.styled then (Markup.plain (markup note).toList).map (Fitting.lines settings.width)
  else .ok [plainText note]

/-- The failure to print a note, if it is printed and cannot be. -/
def refusal? (settings : Settings) (note : Note) : Option Failure :=
  if isShown settings note.level then
    match diagnostic settings note with
    | .ok _ => none
    | .error failure => some failure
  else none

end QueryHooks.Report
