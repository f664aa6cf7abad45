import QueryHooks.Failure
import QueryHooks.Text.Integer
import QueryHooks.Text.Lines
import QueryHooks.Text.Percent
import QueryHooks.Value.Loop

/-! Pointers into a document: the fragments of references. -/

namespace QueryHooks.Pointer

/-- `~1` is a slash and `~0` a tilde; any other tilde stands for itself. -/
def unescape : List Char → List Char
  | '~' :: '1' :: rest => '/' :: unescape rest
  | '~' :: '0' :: rest => '~' :: unescape rest
  | c :: rest => c :: unescape rest
  | [] => []

def segmentOf (written : List Char) : String := String.ofList (unescape (Text.Percent.decode written))

/-- The element at an index; negative indexes count from the end. -/
def element? (items : List Value) (index : Int) : Option Value :=
  if 0 ≤ index then items[index.toNat]?
  else if -index ≤ Int.ofNat items.length then items[items.length - (-index).toNat]?
  else none

/-- The part of a collection that a segment names, as a value of its own. -/
def step (v : Value) (segment : String) : Except PointerProblem Value :=
  match v with
  | .map entries =>
      match Value.lookup segment entries with
      | some part => .ok ((Value.map entries).partOf part)
      | none => .error (.missingKey segment)
  | .list items =>
      match (Text.Integer.read? 10 segment.toList).bind (element? items) with
      | some part => .ok ((Value.list items).partOf part)
      | none => .error (.badIndex segment)
  | v => .error (.notCollection v.kindName)

def walk (v : Value) : List String → Except PointerProblem Value
  | [] => .ok v
  | segment :: rest =>
      match step v segment with
      | .ok part => walk part rest
      | .error problem => .error problem

/-- The names on the way that a pointer describes; no text and a lone slash describe none. -/
def segments? (pointer : String) : Option (List String) :=
  match pointer.toList with
  | [] => some []
  | ['/'] => some []
  | '/' :: path => some ((Text.splitOn '/' path).map segmentOf)
  | _ => none

/-- The part of a document that a pointer names. -/
def follow (document : Value) (pointer : String) : Except PointerProblem Value :=
  match segments? pointer with
  | some segments => walk document segments
  | none => .error .notPointer

end QueryHooks.Pointer
