import QueryHooks.Proofs.TypeScript.SearchParams
import QueryHooks.TypeScript.Code

/-!
A small part of the language, enough for the helpers that generated files hold: constants, conditions,
loops by callback, and the library's objects, arrays, texts and search parameters. A function has the
source text it is written as and the value that a call of it returns.
-/

namespace QueryHooks.TypeScript.Script

/-- Values. Integers are those that are exact; search parameters are known by their place in the store. -/
inductive Datum
  | undefined
  | null
  | boolean (b : Bool)
  | number (n : Int)
  | text (chars : List Char)
  | array (items : List Datum)
  | object (properties : List (String × Datum))
  | params (place : Nat)

/-- What a run can end in. The last is for what this part of the language does not tell. -/
inductive Fault
  | typeError
  | referenceError
  | untold
deriving DecidableEq, Repr

abbrev Store := List SearchParams.Pairs

abbrev Run := StateT Store (Except Fault)

abbrev Scope := List (String × Datum)

/-- A text that stands in quotes as it is. -/
structure Plain where
  chars : List Char
  plain : ∀ c ∈ chars, c ∉ ['"', '\\', '\x60', '$', '\n', '\r']
deriving DecidableEq

inductive Condition
  | falsy (name : String)
  | truthy (name : String)
  | isUndefined (name : String)
  | isNull (name : String)
  | isArray (name : String)
  | either (first second : Condition)

inductive Expression
  | known (name : String)
  | literal (text : Plain)
  | template (before : Plain) (inside : Expression)
  | choice (test : Condition) (yes no : Expression)
  | string (inside : Expression)
  | newParams
  | append (params : String) (name text : Expression)
  | toString (name : String)

/-- What a callback is called with: the items of an array, or the properties of an object. -/
inductive Items
  | of (name : String)
  | entriesOf (name : String)

inductive Pattern
  | whole (name : String)
  | pair (first second : String)

inductive Statement
  | blank
  | declare (name : String) (value : Expression)
  | leaveIf (test : Condition) (result : Option Expression)
  | branch (test : Condition) (body : List Statement)
  | forEach (items : Items) (pattern : Pattern) (body : List Statement)
  | forEachDo (items : Items) (pattern : Pattern) (body : Expression)
  | evaluate (e : Expression)
  | leave (result : Option Expression)

structure Function where
  name : String
  parameter : String
  parameterType : String
  body : List Statement

/-! How it is written. -/

def Condition.source : Condition → String
  | .falsy name => "!" ++ name
  | .truthy name => name
  | .isUndefined name => name ++ " === undefined"
  | .isNull name => name ++ " === null"
  | .isArray name => "Array.isArray(" ++ name ++ ")"
  | .either first second => first.source ++ " || " ++ second.source

def Expression.source : Expression → String
  | .known name => name
  | .literal text => "\"" ++ String.ofList text.chars ++ "\""
  | .template before inside => "\x60" ++ String.ofList before.chars ++ "$\x7b" ++ inside.source ++ "\x7d\x60"
  | .choice test yes no => test.source ++ " ? " ++ yes.source ++ " : " ++ no.source
  | .string inside => "String(" ++ inside.source ++ ")"
  | .newParams => "new URLSearchParams()"
  | .append params name text => params ++ ".append(" ++ name.source ++ ", " ++ text.source ++ ")"
  | .toString name => name ++ ".toString()"

def Items.source : Items → String
  | .of name => name
  | .entriesOf name => "Object.entries(" ++ name ++ ")"

def Pattern.source : Pattern → String
  | .whole name => name
  | .pair first second => "[" ++ first ++ ", " ++ second ++ "]"

def leaveSource : Option Expression → String
  | none => "return;"
  | some result => "return " ++ result.source ++ ";"

mutual

def Statement.code : Statement → Code
  | .blank => .blank
  | .declare name value => .line ("const " ++ name ++ " = " ++ value.source ++ ";")
  | .leaveIf test result => .line ("if (" ++ test.source ++ ") " ++ leaveSource result)
  | .branch test body => Code.braces ("if (" ++ test.source ++ ") ") (codes body) ""
  | .forEach items pattern body =>
      Code.braces (items.source ++ ".forEach((" ++ pattern.source ++ ") => ") (codes body) ");"
  | .forEachDo items pattern body =>
      .line (items.source ++ ".forEach((" ++ pattern.source ++ ") => " ++ body.source ++ ");")
  | .evaluate e => .line (e.source ++ ";")
  | .leave result => .line (leaveSource result)

def codes : List Statement → List Code
  | [] => []
  | statement :: rest => statement.code :: codes rest

end

def Function.code (f : Function) : Code :=
  Code.braces ("const " ++ f.name ++ " = (" ++ f.parameter ++ "?: " ++ f.parameterType ++ ") => ") (codes f.body) ";"

/-! What it does. -/

namespace Datum

def isTruthy : Datum → Bool
  | .undefined => false
  | .null => false
  | .boolean b => b
  | .number n => n != 0
  | .text chars => !chars.isEmpty
  | _ => true

def isUndefined : Datum → Bool
  | .undefined => true
  | _ => false

def isNull : Datum → Bool
  | .null => true
  | _ => false

def isArray : Datum → Bool
  | .array _ => true
  | _ => false

mutual

/-- The text of a value. An object that has its own `toString`, which is no function here, has none. -/
def toText (store : Store) : Datum → Except Fault (List Char)
  | .undefined => .ok "undefined".toList
  | .null => .ok "null".toList
  | .boolean b => .ok (if b then "true" else "false").toList
  | .number n => .ok (ToString.toString n).toList
  | .text chars => .ok chars
  | .array items => do
      let texts ← itemTexts store items
      return [','].intercalate texts
  | .object properties =>
      if properties.any (·.1 == "toString") then .error .typeError else .ok "[object Object]".toList
  | .params place => .ok (SearchParams.serialize (store.getD place []))

/-- The texts of the items of an array, where undefined and null have an empty one. -/
def itemTexts (store : Store) : List Datum → Except Fault (List (List Char))
  | [] => .ok []
  | .undefined :: rest => do return [] :: (← itemTexts store rest)
  | .null :: rest => do return [] :: (← itemTexts store rest)
  | item :: rest => do
      let chars ← toText store item
      return chars :: (← itemTexts store rest)

end

end Datum

theorem Datum.itemTexts_cons {store : Store} {d : Datum} {rest : List Datum} (defined : d.isUndefined = false)
    (filled : d.isNull = false) : Datum.itemTexts store (d :: rest) = do
      let chars ← d.toText store
      return chars :: (← Datum.itemTexts store rest) := by
  cases d with
  | undefined => cases defined
  | null => cases filled
  | _ => rfl

/-- The number that a key of an object is as an index of an array, written as numbers are and below 2^32 - 1. -/
def arrayIndex? (key : String) : Option Nat :=
  let index := key.toList.foldl (fun value c => 10 * value + (c.toNat - '0'.toNat)) 0
  if ToString.toString index = key ∧ index < Nat.pow 2 32 - 1 then some index else none

/-- The properties of an object as they are gone through: indexes first, by size, and other keys as they were made. -/
def inOrder (properties : List (String × Datum)) : List (String × Datum) :=
  (properties.filter fun property => (arrayIndex? property.1).isSome).mergeSort
      (fun a b => (arrayIndex? a.1).getD 0 ≤ (arrayIndex? b.1).getD 0) ++
    properties.filter fun property => (arrayIndex? property.1).isNone

def entry (property : String × Datum) : Datum := .array [.text property.1.toList, property.2]

def readName (scope : Scope) (name : String) : Run Datum :=
  match scope.lookup name with
  | some d => pure d
  | none => throw .referenceError

theorem readName_of_lookup {scope : Scope} {name : String} {d : Datum} (found : scope.lookup name = some d) :
    readName scope name = pure d := by
  rw [readName, found]

def Condition.holds (scope : Scope) : Condition → Run Bool
  | .falsy name => do return !(← readName scope name).isTruthy
  | .truthy name => do return (← readName scope name).isTruthy
  | .isUndefined name => do return (← readName scope name).isUndefined
  | .isNull name => do return (← readName scope name).isNull
  | .isArray name => do return (← readName scope name).isArray
  | .either first second => do
      if ← first.holds scope then return true
      second.holds scope

def textOf (d : Datum) : Run (List Char) := do
  let store ← get
  d.toText store

def Expression.value (scope : Scope) : Expression → Run Datum
  | .known name => readName scope name
  | .literal text => return .text text.chars
  | .template before inside => do
      let d ← inside.value scope
      return .text (before.chars ++ (← textOf d))
  | .choice test yes no => do
      if ← test.holds scope then yes.value scope else no.value scope
  | .string inside => do
      let d ← inside.value scope
      return .text (← textOf d)
  | .newParams => do
      let store ← get
      set (store ++ [[]])
      return .params store.length
  | .append params name text => do
      let receiver ← readName scope params
      let name ← name.value scope
      let text ← text.value scope
      match receiver with
      | .params place => do
          let name ← textOf name
          let text ← textOf text
          modify fun store => store.modify place
            (· ++ [(SearchParams.scalarValues name, SearchParams.scalarValues text)])
          return .undefined
      | _ => throw .typeError
  | .toString name => do
      match ← readName scope name with
      | .undefined => throw .typeError
      | .null => throw .typeError
      | d => return .text (← textOf d)

def Items.list (scope : Scope) : Items → Run (List Datum)
  | .of name => do
      match ← readName scope name with
      | .array items => return items
      | .params _ => throw .untold
      | _ => throw .typeError
  | .entriesOf name => do
      match ← readName scope name with
      | .object properties => return (inOrder properties).map entry
      | .undefined => throw .typeError
      | .null => throw .typeError
      | _ => throw .untold

def Pattern.bind : Pattern → Datum → Run Scope
  | .whole name, d => return [(name, d)]
  | .pair first second, .array items => return [(first, items.getD 0 .undefined), (second, items.getD 1 .undefined)]
  | .pair _ _, _ => throw .untold

/-- What a statement leads to: the next one, with what is in scope there, or out of the function. -/
inductive Outcome
  | next (scope : Scope)
  | left (result : Datum)

def resultOf (scope : Scope) : Option Expression → Run Datum
  | none => return .undefined
  | some result => result.value scope

mutual

def Statement.run (scope : Scope) : Statement → Run Outcome
  | .blank => return .next scope
  | .declare name value => do return .next ((name, ← value.value scope) :: scope)
  | .leaveIf test result => do
      if ← test.holds scope then return .left (← resultOf scope result) else return .next scope
  | .branch test body => do
      if ← test.holds scope then
        match ← runAll scope body with
        | .next _ => return .next scope
        | .left d => return .left d
      else return .next scope
  | .forEach items pattern body => do
      (← items.list scope).forM fun d => do
        let bound ← pattern.bind d
        discard (runAll (bound ++ scope) body)
      return .next scope
  | .forEachDo items pattern body => do
      (← items.list scope).forM fun d => do
        let bound ← pattern.bind d
        discard (body.value (bound ++ scope))
      return .next scope
  | .evaluate e => do
      discard (e.value scope)
      return .next scope
  | .leave result => do return .left (← resultOf scope result)

def runAll (scope : Scope) : List Statement → Run Outcome
  | [] => return .next scope
  | statement :: rest => do
      match ← statement.run scope with
      | .next scope => runAll scope rest
      | .left d => return .left d

end

def Function.call (f : Function) (argument : Datum) : Except Fault Datum := do
  match ← (runAll [(f.parameter, argument)] f.body).run' [] with
  | .next _ => return .undefined
  | .left d => return d

end QueryHooks.TypeScript.Script
