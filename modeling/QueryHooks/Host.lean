import QueryHooks.Disk

/-!
Calls to the operating system, one after the other. The host can refuse any of them, and then the disk stays
as it is. It also draws the numbers that temporary names are made of.
-/

namespace QueryHooks

/-- A call that is to change a disk, or to settle a change. -/
inductive Call
  | makeDirectory (place : Place)
  | create (place : Place)
  | write (place : Place)
  | sync (place : Place)
  | close (place : Place)
  | permit (place : Place)
  | rename (source target : Place)
  /-- Close a file that is given up. -/
  | abandon (place : Place)
  | remove (place : Place)
deriving DecidableEq, Repr

/--
What a host decides: which calls it refuses, by the number of calls before, and the numbers it draws for a
call, by the number of attempts before.
-/
structure Host where
  refuses : Nat → Call → Option Refusal := fun _ _ => none
  draws : Nat → Nat → Nat := fun _ attempt => attempt

/-- A disk, and the calls that were made on it, last first, each with the refusal that it met. -/
structure Machine where
  disk : Disk
  log : List (Call × Option Refusal) := []
deriving Repr

/-- The characters that the ending of a temporary name is made of. -/
def endingLetters : List Char := "abcdefghijklmnopqrstuvwxyz0123456789_".toList

def endingLength : Nat := 8

def temporaryEnding (draw : Nat) : String :=
  String.ofList ((List.range endingLength).map fun i =>
    endingLetters[draw / Nat.pow endingLetters.length i % endingLetters.length]?.getD '_')

/-- The name of a temporary file that is to stand in for another. -/
def temporaryName (name : String) (draw : Nat) : String := "." ++ name ++ "." ++ temporaryEnding draw ++ ".tmp"

/-- The bytes that the name of a temporary file has beyond the name it stands in for. -/
def temporaryExtra : Nat := 14

/-- Whether the temporary file beside a file would have too long a name or too long a path. -/
def isTooLongBeside (p : Path) : Bool :=
  Disk.maxName < octetCount p.name + temporaryExtra || Path.maxLength < octetCount p.text + temporaryExtra

/-- The first of so many candidates, from an attempt on, where nothing stands. -/
def Disk.firstFree? (disk : Disk) (candidate : Nat → Place) : (tries attempt : Nat) → Option Place
  | 0, _ => none
  | tries + 1, attempt =>
      if (disk.at? (candidate attempt)).isNone then some (candidate attempt)
      else disk.firstFree? candidate tries (attempt + 1)

def maxTries : Nat := 10000

namespace Host

/-- Make a call. One that the host refuses leaves the disk as it is, and so does one that cannot be done. -/
def call (host : Host) (made : Call) (effect : Disk → Except Refusal Disk) (m : Machine) :
    Machine × Except Refusal Unit :=
  let refused (refusal : Refusal) : Machine × Except Refusal Unit :=
    ({ m with log := (made, some refusal) :: m.log }, .error refusal)
  match host.refuses m.log.length made with
  | some refusal => refused refusal
  | none =>
      match effect m.disk with
      | .error refusal => refused refusal
      | .ok disk => (⟨disk, (made, none) :: m.log⟩, .ok ())

/-- Make calls up to the first that is refused. -/
def calls (host : Host) : List (Call × (Disk → Except Refusal Disk)) → Machine → Machine × Except Refusal Unit
  | [], m => (m, .ok ())
  | (made, effect) :: rest, m =>
      match host.call made effect m with
      | (m, .error refusal) => (m, .error refusal)
      | (m, .ok ()) => host.calls rest m

/--
Make the directories along segments, from a directory that may be new. Those that are there already count as
made, and those made before a refusal stay.
-/
def makeAlong (host : Host) (isNew : Bool) (here : Place) (segments : List String) (m : Machine) :
    Machine × Except Refusal Place :=
  match segments with
  | [] => (m, .ok here)
  | segment :: rest =>
      let next := Path.follow here segment
      let isNewNext := (m.disk.entryAlong? isNew segment next).isNone
      match host.call (.makeDirectory next) (·.addAlong isNew segment next rest.isEmpty) m with
      | (m, .error refusal) => (m, .error refusal)
      | (m, .ok ()) => host.makeAlong isNewNext next rest m

/-- Make the directory of a path and those above it, and give its place. -/
def makeDirectory (host : Host) (workdir : Place) (p : Path) (m : Machine) : Machine × Except Refusal Place :=
  if p.isTooLong then
    match host.call (.makeDirectory (p.resolve workdir)) (fun _ => .error .nameTooLong) m with
    | (m, .error refusal) => (m, .error refusal)
    | (m, .ok ()) => (m, .ok (p.resolve workdir))
  else host.makeAlong false (Disk.startOf workdir p) p.segments m

/-- Create an empty temporary file in a directory, beside the file of a path, where nothing stands. -/
def createBeside (host : Host) (directory : Place) (p : Path) (m : Machine) : Machine × Except Refusal Place :=
  let candidate (attempt : Nat) : Place :=
    directory ++ [temporaryName p.name (host.draws m.log.length attempt)]
  let free := m.disk.firstFree? candidate maxTries 0
  let place := free.getD (candidate 0)
  let create (disk : Disk) : Except Refusal Disk :=
    if isTooLongBeside p then .error .nameTooLong
    else if free.isNone then .error .exists
    else .ok (disk.put place (.file []))
  match host.call (.create place) create m with
  | (m, .error refusal) => (m, .error refusal)
  | (m, .ok ()) => (m, .ok place)

end Host

/-- Make the directory of a path and those above it, on a host that refuses nothing. -/
def Disk.makeDirectory (disk : Disk) (workdir : Place) (p : Path) : Disk × Except Refusal Place :=
  let (m, made) := ({} : Host).makeDirectory workdir p ⟨disk, []⟩
  (m.disk, made)

end QueryHooks
