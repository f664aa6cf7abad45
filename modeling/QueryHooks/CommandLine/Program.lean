import QueryHooks.CommandLine.Command

/-! The program: from the words of a command line to texts, files and an exit code. -/

namespace QueryHooks.CommandLine

open QueryHooks.Report (Settings Streams Item)

def programName : String := "specquery"

def programVersion : String := "0.3.0"

def usage : String :=
  "\n".intercalate [
    "Usage: specquery [--json | --plain] [--no-color] [--quiet] [--verbose] COMMAND",
    "",
    "  generate [--schema SOURCE] [--out DIRECTORY] [--base-url URL]",
    "           [--openapi-ts-config FILE] [--generate-types | --no-generate-types]",
    "           [--group-by-tag | --no-group-by-tag] [--dry-run]",
    "  inspect operations [--schema SOURCE]",
    "  inspect request OPERATION [--schema SOURCE] [--path NAME=VALUE]... [--query NAME=VALUE]...",
    ""]

/-- How a run ends: with an exit code, or with a failure that could not be reported. -/
structure Ending where
  disk : Disk
  exit : Except Failure Nat
  streams : Streams

/-- The notes on a failure. One that nobody expected comes with advice. -/
def blame (failure : Failure) : List Item :=
  let error (text : String) : Item := .note ⟨.error, text⟩
  match failure with
  | .unexpected =>
      [error failure.message,
        error "Re-run with --verbose and report the output if the problem persists."]
  | _ => [error failure.message]

def printPerformed (settings : Settings) (p : Performed) : Streams × Except Failure Unit :=
  let (streams, result) := Report.printNoted settings ⟨p.notes, p.shown⟩ id
  (streams, result.map fun _ => ())

/-- The report on a failure and the exit code. A report that fails is itself reported, if that can be printed. -/
def report (settings : Settings) (failure : Failure) : Streams × Except Failure Nat :=
  if failure == .unprintable then (.empty, .error failure)
  else
    match Report.print settings (blame failure) with
    | (streams, .ok ()) => (streams, .ok failure.exitCode)
    | (streams, .error other) =>
        if other == .unprintable then (streams, .error other)
        else (streams ++ (Report.print settings (blame other)).1, .ok other.exitCode)

/-- Perform a command and print what it shows. A failure is reported and decides the exit code. -/
def runCommand (world : World) (flags : Flags) (command : Command) : Ending :=
  let settings := Settings.ofFlags world flags.format flags.noColor flags.quiet flags.verbose
  let performed := perform (Report.refusal? settings) world command
  match printPerformed settings performed with
  | (streams, .ok ()) => ⟨performed.disk, .ok 0, streams⟩
  | (streams, .error failure) =>
      let (reported, exit) := report settings failure
      ⟨performed.disk, exit, streams ++ reported⟩

def readsInput (world : World) (words : List String) : Bool :=
  match Invocation.ofWords words with
  | .run _ command => command.readsInput world
  | _ => false

def run (world : World) (words : List String) : Ending :=
  match Invocation.ofWords words with
  | .run flags command => runCommand world flags command
  | .version =>
      let name := programName
      let version := programVersion
      ⟨world.disk, .ok 0, ⟨s!"{name} {version}\n", ""⟩⟩
  | .help => ⟨world.disk, .ok 0, ⟨usage, ""⟩⟩
  | .bare => ⟨world.disk, .ok 2, ⟨usage, ""⟩⟩
  | .unusable => ⟨world.disk, .ok 2, ⟨"", usage⟩⟩

end QueryHooks.CommandLine
