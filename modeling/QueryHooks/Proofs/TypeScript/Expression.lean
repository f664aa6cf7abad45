import QueryHooks.Render.Hooks
import QueryHooks.Text.Lines

/-!
Expressions that compute the path of a request, as the language reads and evaluates them: a quoted
literal, or a template whose values are read by member access and may fall back to a literal. A text
outside this part of the language has no reading here, and what fails when it runs has no value.
-/

namespace QueryHooks.TypeScript

open QueryHooks.Api (Parameter isRequired)
open QueryHooks.PathTemplate (Piece)
open QueryHooks.Text (isWord isAsciiDigit)

/-- What an expression can evaluate to. An object is known by what reading its properties gives. -/
inductive Datum
  | undefined
  | text (chars : List Char)
  | array (items : List (List Char))
  | object (property : String → Datum)

/-- The text of a value where it stands in a template. -/
def Datum.display : Datum → List Char
  | .undefined => "undefined".toList
  | .text chars => chars
  | .array items => [','].intercalate items
  | .object _ => "[object Object]".toList

/-- One step of member access. -/
structure Link where
  optional : Bool
  name : String
deriving DecidableEq, Repr

/-- A member of a variable, and the literal that stands for it where it is undefined. -/
structure Access where
  root : String
  links : List Link
  fallback : Option (List Char)
deriving DecidableEq, Repr

inductive TemplatePart
  | char (c : Char)
  | value (access : Access)
deriving DecidableEq, Repr

inductive Expression
  | literal (chars : List Char)
  | template (parts : List TemplatePart)
deriving DecidableEq, Repr

/-- Above ASCII every word character counts, which is more than the language allows. -/
def isIdentifierPart (c : Char) : Bool := isWord c || c == '$'

/-- Names that the language reads as one word. -/
def IsIdentifier (chars : List Char) : Prop :=
  chars ≠ [] ∧ (∀ c ∈ chars, isIdentifierPart c = true) ∧ chars.head?.all (!isAsciiDigit ·) = true

instance (chars : List Char) : Decidable (IsIdentifier chars) :=
  inferInstanceAs (Decidable (_ ∧ _))

/-- The name that a text starts with, as long as it can be. -/
def name? (chars : List Char) : Option (String × List Char) :=
  if IsIdentifier (chars.takeWhile isIdentifierPart) then
    some (String.ofList (chars.takeWhile isIdentifierPart), chars.dropWhile isIdentifierPart)
  else none

/-- The text before a closing quote, and the text after it. -/
def quoted? : List Char → Option (List Char × List Char)
  | [] => none
  | '\x27' :: rest => some ([], rest)
  | c :: rest =>
      if c ∈ ['\\', '\n', '\r'] then none
      else (quoted? rest).map fun (inside, after) => (c :: inside, after)

theorem name?_length {chars rest : List Char} {name : String} (found : name? chars = some (name, rest)) :
    rest.length ≤ chars.length := by
  unfold name? at found
  split at found
  · obtain ⟨_, same⟩ := Prod.mk.inj (Option.some.inj found)
    rw [← same]
    exact (List.dropWhile_sublist _).length_le
  · cases found

/-- The steps of member access that a text starts with, and the text after them. -/
def links? (chars : List Char) : Option (List Link × List Char) :=
  match chars with
  | '?' :: '.' :: rest =>
      match _found : name? rest with
      | some (name, after) => (links? after).map fun (links, last) => (⟨true, name⟩ :: links, last)
      | none => none
  | '.' :: rest =>
      match _found : name? rest with
      | some (name, after) => (links? after).map fun (links, last) => (⟨false, name⟩ :: links, last)
      | none => none
  | chars => some ([], chars)
termination_by chars.length
decreasing_by
  all_goals
    have := name?_length _found
    simp only [List.length_cons]
    omega

def fallback? : List Char → Option (Option (List Char))
  | [] => some none
  | ' ' :: '?' :: '?' :: ' ' :: '\x27' :: rest =>
      match quoted? rest with
      | some (inside, []) => some (some inside)
      | _ => none
  | _ => none

def Access.read? (chars : List Char) : Option Access := do
  let (root, rest) ← name? chars
  let (links, rest) ← links? rest
  return ⟨root, links, ← fallback? rest⟩

/-- The parts of a template up to its closing mark, which must be the last character. -/
def templateParts? (chars : List Char) : Option (List TemplatePart) :=
  match chars with
  | [] => none
  | '$' :: '\x7b' :: rest =>
      match _found : Text.cutAt '\x7d' rest with
      | (inside, some after) => do
          let access ← Access.read? inside
          return .value access :: (← templateParts? after)
      | (_, none) => none
  | c :: rest =>
      if c == '\x60' then if rest.isEmpty then some [] else none
      else if c ∈ ['\\', '\r'] then none
      else (templateParts? rest).map (.char c :: ·)
termination_by chars.length
decreasing_by
  · have := Text.cutAt_length _found
    simp only [List.length_cons]
    omega
  · simp

def Expression.read? : List Char → Option Expression
  | '\x27' :: rest =>
      match quoted? rest with
      | some (inside, []) => some (.literal inside)
      | _ => none
  | '\x60' :: rest => (templateParts? rest).map .template
  | _ => none

theorem Expression.read?_quoted {rest inside : List Char} (found : quoted? rest = some (inside, [])) :
    Expression.read? ('\x27' :: rest) = some (.literal inside) := by
  rw [Expression.read?, found]

/-- What the variables in scope hold. -/
abbrev Scope := String → Option Datum

/-- Follow member access. An optional step from what is undefined ends it, any other fails. -/
def follow : Datum → List Link → Option Datum
  | d, [] => some d
  | .undefined, link :: _ => if link.optional then some .undefined else none
  | .object property, link :: rest => follow (property link.name) rest
  | _, _ :: _ => none

def Access.value? (scope : Scope) (access : Access) : Option Datum := do
  let found ← follow (← scope access.root) access.links
  match found, access.fallback with
  | .undefined, some chars => return .text chars
  | found, _ => return found

def TemplatePart.display? (scope : Scope) : TemplatePart → Option (List Char)
  | .char c => some [c]
  | .value access => (access.value? scope).map Datum.display

/-- The text that an expression evaluates to. -/
def Expression.text? (scope : Scope) : Expression → Option String
  | .literal chars => some (String.ofList chars)
  | .template parts => (parts.mapM (TemplatePart.display? scope)).map fun texts => String.ofList texts.flatten

/-- The text that source text evaluates to. -/
def evaluate? (scope : Scope) (source : String) : Option String :=
  (Expression.read? source.toList).bind (·.text? scope)

/-- The variables of a hook, with an object for its path values: queries have it in their parameters. -/
def hookScope (isQuery : Bool) (values : String → Datum) : Scope := fun name =>
  if isQuery then
    if name = "params" then
      some (.object fun property => if property = "path" then .object values else .undefined)
    else none
  else if name = "path" then some (.object values)
  else none

end QueryHooks.TypeScript
