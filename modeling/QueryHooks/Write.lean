import QueryHooks.Host
import QueryHooks.Noted
import QueryHooks.Plan

/-!
Writing planned files. Each file is replaced as a whole, one after the other. A failure ends the writing:
files written before it stay, and those after it are not begun.
-/

namespace QueryHooks.Write

def target (outDir : String) (file : PlannedFile) : Path := (Path.ofText outDir).join (.ofText file.path)

/-- The greatest number of directories that are made above a file. -/
def maxMissing : Nat := 960

/-- Fill a temporary file with a text. One that is no text in whole characters cannot be written. -/
def fill (host : Host) (target : Path) (temporary : Place) (contents : String) (m : Machine) :
    Machine × Except Failure Unit :=
  if !Text.Half.areWhole contents.toList then (m, .error .unexpected)
  else
    let octets := Text.Utf8.encode contents.toList
    match host.calls
        [(.write temporary, fun disk => .ok (disk.put temporary (.file octets))), (.sync temporary, .ok)] m with
    | (m, .error refusal) => (m, .error (.output target.text refusal))
    | (m, .ok ()) => (m, .ok ())

/-- Close a temporary file that is filled, and put it in the place of a path in a directory. -/
def settle (host : Host) (target : Path) (directory temporary : Place) (m : Machine) :
    Machine × Except Refusal Unit :=
  host.calls
    [(.close temporary, .ok), (.permit temporary, .ok),
      (.rename temporary (directory ++ [target.name]), (·.rename temporary directory target.name))] m

/-- Remove a temporary file. A refusal is passed over. -/
def discard (host : Host) (temporary : Place) (m : Machine) : Machine :=
  (host.call (.remove temporary) (fun disk => .ok (disk.remove temporary)) m).1

/--
Put a file with a text in the place of a path in a directory, through a temporary file beside it. On a failure the
temporary file is removed, unless it is still open and cannot be closed.
-/
def replace (host : Host) (directory : Place) (target : Path) (contents : String) (m : Machine) :
    Machine × Except Failure Unit :=
  let refused (refusal : Refusal) : Except Failure Unit := .error (.output target.text refusal)
  if !isNameable target.name then (m, .error .unexpected)
  else
    match host.createBeside directory target m with
    | (m, .error refusal) => (m, refused refusal)
    | (m, .ok temporary) =>
        match fill host target temporary contents m with
        | (m, .error failure) =>
            match host.call (.abandon temporary) .ok m with
            | (m, .error refusal) => (m, refused refusal)
            | (m, .ok ()) => (discard host temporary m, .error failure)
        | (m, .ok ()) =>
            match settle host target directory temporary m with
            | (m, .error refusal) => (discard host temporary m, refused refusal)
            | (m, .ok ()) => (m, .ok ())

/-- Write a file, and make the directories above it first. -/
def file (host : Host) (workdir : Place) (target : Path) (contents : String) (m : Machine) :
    Machine × Except Failure Unit :=
  if !isNameable target.parent.text then (m, .error .unexpected)
  else if !target.parent.isTooLong && maxMissing < m.disk.missing workdir target.parent then (m, .error .unexpected)
  else
    match host.makeDirectory workdir target.parent m with
    | (m, .error refusal) => (m, .error (.output target.text refusal))
    | (m, .ok directory) => replace host directory target contents m

structure Outcome where
  machine : Machine
  notes : List Note
  written : Except Failure (List Path)

def Outcome.disk (outcome : Outcome) : Disk := outcome.machine.disk

def note (path : Path) : Note := .debug ("Wrote " ++ path.text)

/--
Write files on a machine, in order, up to the first failure, with a way to write one. A listener hears of each
that is written.
-/
def course (write : Path → String → Machine → Machine × Except Failure Unit) (listener : Noted.Listener)
    (outDir : String) : List PlannedFile → Machine → Outcome
  | [], m => ⟨m, [], .ok []⟩
  | planned :: rest, m =>
      let path := target outDir planned
      match write path planned.contents m with
      | (m, .error failure) => ⟨m, [], .error failure⟩
      | (m, .ok ()) =>
          match listener (note path) with
          | some failure => ⟨m, [note path], .error failure⟩
          | none =>
              let outcome := course write listener outDir rest m
              { machine := outcome.machine
                notes := note path :: outcome.notes
                written := outcome.written.map (path :: ·) }

def files (listener : Noted.Listener) (disk : Disk) (workdir : Place) (outDir : String)
    (planned : List PlannedFile) (host : Host := {}) : Outcome :=
  course (file host workdir) listener outDir planned ⟨disk, []⟩

end QueryHooks.Write
