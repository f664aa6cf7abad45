import QueryHooks.Yaml.Moment
import QueryHooks.Yaml.Number

/-! The kinds of node that tags name, and the kind of a scalar that has no tag. -/

namespace QueryHooks.Yaml

inductive Tag
  | null
  | bool
  | int
  | float
  | binary
  | timestamp
  | text
  | sequence
  | mapping
  | orderedMap
  | pairs
  | set
  | merge
  | defaultValue
  | other (name : String)
deriving DecidableEq, Repr

namespace Tag

def standard : List (String × Tag) :=
  [("null", .null), ("bool", .bool), ("int", .int), ("float", .float), ("binary", .binary),
    ("timestamp", .timestamp), ("str", .text), ("seq", .sequence), ("map", .mapping),
    ("omap", .orderedMap), ("pairs", .pairs), ("set", .set), ("merge", .merge), ("value", .defaultValue)]

/-- What the handle `!!` stands for. -/
def standardStart : String := "tag:yaml.org,2002:"

def ofName (name : String) : Tag :=
  match standard.find? fun entry => standardStart ++ entry.1 == name with
  | some (_, tag) => tag
  | none => .other name

def truths : List String := ["yes", "Yes", "YES", "true", "True", "TRUE", "on", "On", "ON"]

def falsehoods : List String := ["no", "No", "NO", "false", "False", "FALSE", "off", "Off", "OFF"]

private def looksTimestamp (chars : List Char) : Bool :=
  match Moment.read? chars with
  | some (.date _ padded) => padded
  | some (.timestamp _) => true
  | none => false

/-- The kind of a text that carries no tag. -/
def ofText (chars : List Char) : Tag :=
  let text := String.ofList chars
  if truths.contains text || falsehoods.contains text then .bool
  else if Number.looksFloat chars then .float
  else if Number.looksInteger chars then .int
  else if text == "<<" then .merge
  else if ["~", "null", "Null", "NULL"].contains text then .null
  else if looksTimestamp chars then .timestamp
  else if text == "=" then .defaultValue
  else if text == "!" || text == "&" || text == "*" then .other (standardStart ++ "yaml")
  else .text

/-- The kind of a scalar that carries no tag: one line break at its end does not count, and no text at all is null. -/
def ofScalar (text : String) : Tag :=
  match text.toList.reverse with
  | [] => .null
  | '\n' :: [] => .text
  | '\n' :: more => ofText more.reverse
  | _ => ofText text.toList

end Tag

end QueryHooks.Yaml
