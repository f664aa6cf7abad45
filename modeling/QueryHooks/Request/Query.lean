import QueryHooks.Failure
import QueryHooks.Text.Half
import QueryHooks.Text.Lines
import QueryHooks.Text.Percent
import QueryHooks.Value.Shown

/-! How values are spelled in requests. -/

namespace QueryHooks.Request

mutual

/-- The text of a value. Numbers without a fraction have no point, and lists are joined by commas. -/
def spell : Value → String
  | .null => "null"
  | .bool b => if b then "true" else "false"
  | .float x =>
      match x.toInt? with
      | some n => toString n
      | none => (Value.float x).display
  | .map _ => "[object Object]"
  | .again .map _ => "[object Object]"
  | .list items => ",".intercalate (spellItems items)
  | .pair first second => ",".intercalate [spellItem first, spellItem second]
  | v => v.display

/-- An item of a list; null has no text there. -/
def spellItem : Value → String
  | .null => ""
  | v => spell v

def spellItems : List Value → List String
  | [] => []
  | v :: rest => spellItem v :: spellItems rest

end

theorem spell_text (text : String) : spell (.text text) = text := by simp [spell, Value.display]

mutual

/-- Whether a value can be spelled: lists lie at most so many levels deep, and no integer in them is too long to write. -/
def isSpellable (levels : Nat) : Value → Bool
  | .map _ => true
  | .again .map _ => true
  | .again .list _ => false
  | .list items => 0 < levels && areSpellable (levels - 1) items
  | .pair first second =>
      0 < levels && isSpellable (levels - 1) first && isSpellable (levels - 1) second
  | v => !v.hasLongInteger

def areSpellable (levels : Nat) : List Value → Bool
  | [] => true
  | v :: rest => isSpellable levels v && areSpellable levels rest

end

/-- How deep lists may lie inside each other in a value that is spelled. -/
def maxNesting : Nat := 330

/-- The text of a value, if it has one. -/
def spelled (v : Value) : Except Failure String :=
  if isSpellable maxNesting v then .ok (spell v) else .error .unexpected

end QueryHooks.Request

/-! Query strings. -/

namespace QueryHooks.Request

abbrev Fields := List (String × Value)

namespace Fields

def toValue (fields : Fields) : Value := .record fields

/-- The fields of a mapping. What does not hold has no fields, and for all else there is no such thing. -/
def ofValue (v : Value) : Except Failure Fields :=
  match v with
  | .map entries => .ok (entries.map fun (key, v) => (key.display, v))
  | v => if v.isTruthy then .error .unexpected else .ok []

/-- The values that a value sends: each item of a list, and none for null. -/
def sent : Value → List Value
  | .null => []
  | .list items => items
  | .pair first second => [first, second]
  | v => [v]

/-- The values that fields send, each under the name of its field. -/
def entries (fields : Fields) : List (String × Value) :=
  fields.flatMap fun (name, v) => (sent v).map fun item => (name, item)

end Fields

/-- Form data keeps the star and quotes the tilde. -/
def formEncode (text : String) : List Char :=
  (Text.Percent.quotePlus ['*'] text.toList).flatMap fun c => if c == '~' then ['%', '7', 'E'] else [c]

def formPair (name text : String) : List Char := formEncode name ++ '=' :: formEncode text

/-- Whether an entry can be written in form data: half a surrogate pair has no bytes. -/
def isSendable (entry : String × Value) : Bool :=
  Text.Half.areWhole entry.1.toList && isSpellable maxNesting entry.2 &&
    Text.Half.areWhole (spell entry.2).toList

/-- The query string of fields. Fields that send nothing have an empty one. -/
def queryString (fields : Fields) : Except Failure String :=
  match fields.entries with
  | [] => .ok ""
  | entries =>
      if entries.all isSendable then
        .ok (String.ofList ('?' :: ['&'].intercalate (entries.map fun (name, v) => formPair name (spell v))))
      else .error .unexpected

/-! Fields from texts that each hold a name and a value. -/

/-- The name and the value that the first equals sign of a text separates. -/
def readPair? (text : String) : Option (String × String) :=
  match Text.cutAt '=' text.toList with
  | ([], _) => none
  | (_, none) => none
  | (name, some value) => some (String.ofList name, String.ofList value)

/-- A value, and one more text under the same name. -/
def collect (v : Value) (text : String) : Value :=
  match v with
  | .list items => .list (items ++ [.text text])
  | v => .list [v, .text text]

/-- Add a pair to fields. A name that is there keeps its place and collects a list. -/
def addPair (pair : String × String) : Fields → Fields
  | [] => [(pair.1, .text pair.2)]
  | (name, v) :: rest =>
      if name == pair.1 then (name, collect v pair.2) :: rest else (name, v) :: addPair pair rest

/-- The fields that the values of a repeated option make. -/
def fieldsAfter (option : String) (fields : Fields) : List String → Except Failure Fields
  | [] => .ok fields
  | text :: rest =>
      match readPair? text with
      | none => .error (.usage (.notPair option text))
      | some pair => fieldsAfter option (addPair pair fields) rest

def fieldsOfPairs (option : String) (texts : List String) : Except Failure Fields := fieldsAfter option [] texts

end QueryHooks.Request
