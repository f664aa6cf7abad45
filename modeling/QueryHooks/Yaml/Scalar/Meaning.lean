import QueryHooks.Text.Base64
import QueryHooks.Text.Letters
import QueryHooks.Value
import QueryHooks.Yaml.Cursor
import QueryHooks.Yaml.Tag

/-! The value that the text of a scalar denotes. -/

namespace QueryHooks.Yaml

def moment (chars : List Char) : Option Value :=
  let chars := if chars.getLast? == some '\n' then chars.dropLast else chars
  match Moment.read? chars with
  | some (.date d _) => if d.isValid then some (.date d) else none
  | some (.timestamp t) => if t.isValid then some (.timestamp t) else none
  | none => none

def truth (chars : List Char) : Option Value :=
  let text := String.ofList (Text.lower chars)
  if Tag.truths.contains text then some (.bool true)
  else if Tag.falsehoods.contains text then some (.bool false)
  else none

def orUnrepresentable (found : Option Value) : Except Failure Value :=
  match found with
  | some v => .ok v
  | none => .error .unrepresentable

def binary (chars : List Char) : Except Failure Value :=
  if !chars.all Text.isAscii then .error (.malformed .badBinary)
  else
    match Text.Base64.decode? chars with
    | some octets => .ok (.bytes octets)
    | none => .error (.malformed .badBinary)

def scalarValue (tag : Tag) (chars : List Char) : Except Failure Value :=
  match tag with
  | .null => .ok .null
  | .bool => orUnrepresentable (truth chars)
  | .int => orUnrepresentable ((Number.integer? chars).map .int)
  | .float => orUnrepresentable ((Number.float? chars).map .float)
  | .binary => binary chars
  | .timestamp => orUnrepresentable (moment chars)
  | .text => .ok (.text (String.ofList chars))
  | .merge => .error (.malformed (.unknownTag (Tag.standardStart ++ "merge")))
  | .defaultValue => .error (.malformed (.unknownTag (Tag.standardStart ++ "value")))
  | .other name => .error (.malformed (.unknownTag name))
  | .sequence | .mapping | .set | .orderedMap | .pairs => .error (.malformed (.wrongKind "collection"))

/-- Whether a tag names a kind of node at all. -/
def Tag.isKnown : Tag → Bool
  | .merge => false
  | .defaultValue => false
  | .other _ => false
  | _ => true

/-- Whether nodes of a kind are filled after they have been made. Such a node is never a key. -/
def Tag.isDeferred : Tag → Bool
  | .sequence => true
  | .mapping => true
  | .set => true
  | .orderedMap => true
  | .pairs => true
  | _ => false

end QueryHooks.Yaml
