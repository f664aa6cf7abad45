import QueryHooks.Calendar
import QueryHooks.Decimal.Shortest
import QueryHooks.Text.Quoted

/-! Document values: what a JSON or YAML text denotes. -/

namespace QueryHooks

open Decimal (Binary64)
open Calendar (Date Timestamp)

/-- The collections that can contain themselves. -/
inductive Collection
  | list
  | map
deriving DecidableEq, Repr

/--
A document tree. The entries of a mapping keep their order. A document can contain itself: `again` stands
for the list or the mapping that lies `up` lists and mappings further out than the one it is in.
-/
inductive Value
  | null
  | bool (b : Bool)
  | int (n : Int)
  | float (x : Binary64)
  | text (s : String)
  | bytes (octets : List UInt8)
  | date (d : Date)
  | timestamp (t : Timestamp)
  | list (items : List Value)
  | map (entries : List (Value × Value))
  | set (members : List Value)
  | pair (first second : Value)
  | again (kind : Collection) (up : Nat)
deriving Repr, Inhabited

namespace Value

/-- The name of a kind of value, as messages give it. -/
def kindName : Value → String
  | .null => "NoneType"
  | .bool _ => "bool"
  | .int _ => "int"
  | .float _ => "float"
  | .text _ => "str"
  | .bytes _ => "bytes"
  | .date _ => "date"
  | .timestamp _ => "datetime"
  | .list _ => "list"
  | .map _ => "dict"
  | .set _ => "set"
  | .pair .. => "tuple"
  | .again .list _ => "list"
  | .again .map _ => "dict"

/-- Null, false, zero and what is empty do not hold. -/
def isTruthy : Value → Bool
  | .null => false
  | .bool b => b
  | .int n => n != 0
  | .float x => !x.isZero
  | .text s => s != ""
  | .bytes octets => !octets.isEmpty
  | .date _ => true
  | .timestamp _ => true
  | .list items => !items.isEmpty
  | .map entries => !entries.isEmpty
  | .set members => !members.isEmpty
  | .pair .. => true
  | .again .. => true

/-- The integer that a value counts as among keys. -/
def asInt? : Value → Option Int
  | .bool b => some (if b then 1 else 0)
  | .int n => some n
  | .float x => x.toInt?
  | _ => none

/-- Whether two scalars are the same key of a mapping: numbers by value, whatever their kind. -/
def sameKey (a b : Value) : Bool :=
  match a.asInt?, b.asInt? with
  | some x, some y => x == y
  | _, _ =>
      match a, b with
      | .null, .null => true
      | .float x, .float y => x == y
      | .text s, .text t => s == t
      | .bytes s, .bytes t => s == t
      | .date s, .date t => s == t
      | .timestamp s, .timestamp t => s.sameMoment t
      | _, _ => false

def isKey : Value → Bool
  | .list _ => false
  | .map _ => false
  | .set _ => false
  | .again .. => false
  | _ => true

/-- Store an entry. A key that is there keeps its place and takes the new value. -/
def put (key value : Value) : List (Value × Value) → List (Value × Value)
  | [] => [(key, value)]
  | (k, v) :: rest => if sameKey k key then (k, value) :: rest else (k, v) :: put key value rest

/-- The entries of a mapping whose pairs are stored one after the other. -/
def ofPairs (pairs : List (Value × Value)) : List (Value × Value) :=
  pairs.foldl (fun entries (key, value) => put key value entries) []

def lookup (key : String) : List (Value × Value) → Option Value
  | [] => none
  | (.text k, v) :: rest => if k == key then some v else lookup key rest
  | _ :: rest => lookup key rest

def get? (v : Value) (key : String) : Option Value :=
  match v with
  | .map entries => lookup key entries
  | _ => none

def isMap : Value → Bool
  | .map _ => true
  | _ => false

/-- Numbers are positional from `0.0001` up to sixteen digits, and exponents have two digits. -/
def numberLayout : Decimal.Layout := ⟨-3, 16, 2, "nan".toList, "inf".toList⟩

def floatText (x : Binary64) : String := String.ofList (numberLayout.write x)

private def joined (opening closing : String) (parts : List String) : String :=
  opening ++ ", ".intercalate parts ++ closing

mutual

/-- The inspected form of a value: texts in quotes, collections in brackets, dots where one contains itself. -/
def inspect : Value → String
  | .null => "None"
  | .bool b => if b then "True" else "False"
  | .int n => toString n
  | .float x => floatText x
  | .text s => String.ofList (Text.Quoted.encode s.toList)
  | .bytes octets => String.ofList (Text.Quoted.encodeBytes octets)
  | .date d => d.inspect
  | .timestamp t => t.inspect
  | .list items => joined "[" "]" (inspectAll items)
  | .map entries => joined "\x7b" "\x7d" (inspectEntries entries)
  | .set [] => "set()"
  | .set members => joined "\x7b" "\x7d" (inspectAll members)
  | .pair first second => joined "(" ")" [inspect first, inspect second]
  | .again .list _ => "[...]"
  | .again .map _ => "\x7b...\x7d"

def inspectAll : List Value → List String
  | [] => []
  | v :: rest => inspect v :: inspectAll rest

def inspectEntries : List (Value × Value) → List String
  | [] => []
  | (k, v) :: rest => (inspect k ++ ": " ++ inspect v) :: inspectEntries rest

end

/-- The plain form of a value: a text stands for itself. -/
def display : Value → String
  | .text s => s
  | .date d => d.text
  | .timestamp t => t.text " "
  | v => v.inspect

def record (fields : List (String × Value)) : Value := .map (fields.map fun (name, v) => (.text name, v))

def ofText? : Option String → Value
  | none => .null
  | some s => .text s

end Value

end QueryHooks
