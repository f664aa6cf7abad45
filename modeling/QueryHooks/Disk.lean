import QueryHooks.Path
import QueryHooks.Text.Utf8

/-! A tree of directories and files, and what the operating system does with it. -/

namespace QueryHooks

inductive Refusal
  | missing
  | busy
  | exists
  | notDirectory
  | isDirectory
  | nameTooLong
  | other (code : Nat) (text : String)
deriving DecidableEq, Repr

namespace Refusal

def code : Refusal → Nat
  | .missing => 2
  | .busy => 16
  | .exists => 17
  | .notDirectory => 20
  | .isDirectory => 21
  | .nameTooLong => 36
  | .other code _ => code

def text : Refusal → String
  | .missing => "No such file or directory"
  | .busy => "Device or resource busy"
  | .exists => "File exists"
  | .notDirectory => "Not a directory"
  | .isDirectory => "Is a directory"
  | .nameTooLong => "File name too long"
  | .other _ text => text

def message (r : Refusal) : String := s!"[Errno {r.code}] {r.text}"

end Refusal

inductive Entry
  | directory
  | file (octets : List UInt8)
deriving DecidableEq, Repr

/-- The places that are taken. The root directory is always there. -/
structure Disk where
  entries : List (Place × Entry)
deriving DecidableEq, Repr

namespace Disk

def empty : Disk := ⟨[]⟩

def at? (disk : Disk) (place : Place) : Option Entry :=
  if place.isEmpty then some .directory else disk.entries.lookup place

def isDirectory (disk : Disk) (place : Place) : Bool := disk.at? place == some .directory

def files (disk : Disk) : List (Place × List UInt8) :=
  disk.entries.filterMap fun (place, e) =>
    match e with
    | .file octets => some (place, octets)
    | .directory => none

def put (disk : Disk) (place : Place) (e : Entry) : Disk :=
  let rec go : List (Place × Entry) → List (Place × Entry)
    | [] => [(place, e)]
    | (p, old) :: rest => if p == place then (p, e) :: rest else (p, old) :: go rest
  ⟨go disk.entries⟩

def maxName : Nat := 255

def isTooLong (name : String) : Bool := maxName < octetCount name

/-- Walk from a directory along segments to the place they lead to, which need not be taken. -/
def walk (disk : Disk) (here : Place) : List String → Except Refusal Place
  | [] => .ok here
  | segment :: rest =>
      match disk.at? here with
      | none => .error .missing
      | some (.file _) => .error .notDirectory
      | some .directory =>
          if isTooLong segment then .error .nameTooLong else disk.walk (Path.follow here segment) rest

def startOf (workdir : Place) (p : Path) : Place := if p.isAbsolute then [] else workdir

def find (disk : Disk) (workdir : Place) (p : Path) : Except Refusal (Place × Entry) := do
  if p.isTooLong then throw .nameTooLong
  let place ← disk.walk (startOf workdir p) p.segments
  match disk.at? place with
  | none => .error .missing
  | some e => .ok (place, e)

def read (disk : Disk) (workdir : Place) (p : Path) : Except Refusal (List UInt8) := do
  match ← disk.find workdir p with
  | (_, .file octets) => .ok octets
  | (_, .directory) => .error .isDirectory

/-- What stands at a place that a segment leads to; nothing stands in a directory that is new. -/
def entryAlong? (disk : Disk) (isNew : Bool) (segment : String) (place : Place) : Option Entry :=
  if isNew && segment != ".." then none else disk.at? place

def addDirectory (disk : Disk) (place : Place) : Disk := ⟨disk.entries ++ [(place, .directory)]⟩

/--
Make the directory that a segment leads to, unless it is there. A file in the way is `exists` where the path
ends and `notDirectory` before.
-/
def addAlong (disk : Disk) (isNew : Bool) (segment : String) (next : Place) (isLast : Bool) :
    Except Refusal Disk :=
  if isTooLong segment then .error .nameTooLong
  else
    match disk.entryAlong? isNew segment next with
    | some (.file _) => .error (if isLast then .exists else .notDirectory)
    | some .directory => .ok disk
    | none => .ok (disk.addDirectory next)

/-- How many of the directories along segments are not there, the first missing one and all after it. -/
def missingAlong (disk : Disk) (here : Place) : List String → Nat
  | [] => 0
  | segment :: rest =>
      let next := Path.follow here segment
      if (disk.at? next).isSome then disk.missingAlong next rest else rest.length + 1

def missing (disk : Disk) (workdir : Place) (p : Path) : Nat := disk.missingAlong (startOf workdir p) p.segments

def remove (disk : Disk) (place : Place) : Disk := ⟨disk.entries.filter (·.1 != place)⟩

/-- Move what stands at a place to a name in a directory, over the file that has the name. -/
def rename (disk : Disk) (source directory : Place) (name : String) : Except Refusal Disk :=
  if name == ".." || name == "" then .error .busy
  else
    let target := directory ++ [name]
    if disk.isDirectory target then .error .isDirectory
    else
      match disk.at? source with
      | none => .error .missing
      | some e => .ok ((disk.put target e).remove source)

end Disk

end QueryHooks
