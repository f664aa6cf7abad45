import QueryHooks.Path
import QueryHooks.Text.Lines
import QueryHooks.Url

/-! What a reference points at: a document and a pointer into it. -/

namespace QueryHooks

/-- A document, by the key that is the same however it is spelled, and a pointer into it. -/
structure Target where
  document : String
  pointer : String
deriving DecidableEq, Repr

def Target.key (t : Target) : String := t.document ++ "#" ++ t.pointer

namespace Reference

/-- The absolute path of a file. A text that cannot be a path denotes none. -/
def fileKey? (workdir : Place) (p : Path) : Option String :=
  if isNameable p.text then some (Path.placeText (p.resolve workdir)) else none

/-- The key of the document that a run is about. One without a place of its own lies in the working directory. -/
def documentKey? (workdir : Place) (source : Option String) : Option String :=
  match source with
  | none => fileKey? workdir (.ofText "<stdin>")
  | some "-" => fileKey? workdir (.ofText "<stdin>")
  | some source => if isUrl source then some source else fileKey? workdir (.ofText source)

/-- The key of the document at a location, as seen from another document. -/
def locate? (workdir : Place) (document location : String) : Option String :=
  if location.isEmpty then some document
  else if isUrl location then some location
  else if isUrl document then (Url.join? document.toList location.toList).map String.ofList
  else fileKey? workdir ((Path.ofText document).parent.join (.ofText location))

/-- The target of a reference in a document: a location, then after `#` a pointer. -/
def target? (workdir : Place) (document reference : String) : Option Target :=
  let (location, fragment) := Text.cutAt '#' reference.toList
  (locate? workdir document (String.ofList location)).map fun key =>
    ⟨key, String.ofList (fragment.getD [])⟩

end Reference

end QueryHooks
