import QueryHooks.Text.Half
import QueryHooks.Text.Lines

/-! File paths as texts name them, and the places they denote below the root directory. -/

namespace QueryHooks

/-- A place in the tree of directories: the names on the way from the root. -/
abbrev Place := List String

/-- Names are bytes: halves of surrogate pairs from U+DC80 on stand for the bytes that no text has, others for none. -/
def isLoneByte (unit : Nat) : Bool := 0xDC80 ≤ unit && unit ≤ 0xDCFF

def isPathChar (c : Char) : Bool :=
  c != '\x00' &&
    match Text.Half.unit? c with
    | some unit => isLoneByte unit
    | none => true

/-- Whether a text can be a path at all. -/
def isNameable (text : String) : Bool := text.toList.all isPathChar

def octetCount (name : String) : Nat :=
  name.toList.foldl (fun count c => count + if Text.Half.isHalf c then 1 else c.utf8Size) 0

/-- Where a path starts: at the directory it is seen from, at the root, or at the root written with exactly two slashes. -/
inductive Origin
  | relative
  | root
  | doubledRoot
deriving DecidableEq, Repr

def Origin.text : Origin → String
  | .relative => ""
  | .root => "/"
  | .doubledRoot => "//"

/-- A path: its segments without empty ones and `.`; `..` stands as written. -/
structure Path where
  origin : Origin
  segments : List String
deriving DecidableEq, Repr

namespace Path

def split (text : String) : List String := (Text.splitOn '/' text.toList).map String.ofList

def originOf : List Char → Origin
  | '/' :: '/' :: '/' :: _ => .root
  | '/' :: '/' :: _ => .doubledRoot
  | '/' :: _ => .root
  | _ => .relative

def ofText (text : String) : Path :=
  ⟨originOf text.toList, (split text).filter fun segment => segment != "" && segment != "."⟩

def isAbsolute (p : Path) : Bool := p.origin != .relative

/-- The path as text; a relative path without segments is `.`. -/
def text (p : Path) : String :=
  if !p.isAbsolute && p.segments.isEmpty then "." else p.origin.text ++ "/".intercalate p.segments

def maxLength : Nat := 4095

def isTooLong (p : Path) : Bool := maxLength < octetCount p.text

/-- A path inside a directory; an absolute one does not depend on it. -/
def join (directory inside : Path) : Path :=
  if inside.isAbsolute then inside else ⟨directory.origin, directory.segments ++ inside.segments⟩

def parent (p : Path) : Path := { p with segments := p.segments.dropLast }

def name (p : Path) : String := p.segments.getLast?.getD ""

/-- Follow one segment from a place: `..` leads to the parent, and from the root to the root. -/
def follow (here : Place) (segment : String) : Place :=
  if segment == ".." then here.dropLast else here ++ [segment]

/-- The place that a path denotes, seen from a directory. -/
def resolve (workdir : Place) (p : Path) : Place :=
  p.segments.foldl follow (if p.isAbsolute then [] else workdir)

def ofPlace (place : Place) : Path := ⟨.root, place⟩

def placeText (place : Place) : String := (ofPlace place).text

/-- The part of a name from its last dot on. A dot at either end of the name starts none. -/
def suffix (p : Path) : String :=
  let chars := p.name.toList
  let ending := chars.reverse.takeWhile (· != '.')
  if ending.isEmpty || chars.length ≤ ending.length + 1 then ""
  else String.ofList ('.' :: ending.reverse)

end Path

end QueryHooks
