import QueryHooks.Value.Shown

/-! The operations of an API: what a path and a method accept and answer. -/

namespace QueryHooks.Api

/-- The methods that operations are made for, in the order in which a path's operations are listed. -/
inductive Method
  | get
  | post
  | put
  | patch
  | delete
  | head
deriving DecidableEq, Repr

namespace Method

def all : List Method := [.get, .post, .put, .patch, .delete, .head]

def text : Method → String
  | .get => "get"
  | .post => "post"
  | .put => "put"
  | .patch => "patch"
  | .delete => "delete"
  | .head => "head"

def wireText : Method → String
  | .get => "GET"
  | .post => "POST"
  | .put => "PUT"
  | .patch => "PATCH"
  | .delete => "DELETE"
  | .head => "HEAD"

def isQuery : Method → Bool
  | .get => true
  | .head => true
  | _ => false

end Method

inductive Location
  | path
  | query
  | header
  | cookie
deriving DecidableEq, Repr

namespace Location

def text : Location → String
  | .path => "path"
  | .query => "query"
  | .header => "header"
  | .cookie => "cookie"

def ofText? : String → Option Location
  | "path" => some .path
  | "query" => some .query
  | "header" => some .header
  | "cookie" => some .cookie
  | _ => none

end Location

/-- What a schema describes, as far as its own type says. -/
inductive Shape
  | string
  | number
  | boolean
  | array
  | object
  | unknown
deriving DecidableEq, Repr

namespace Shape

def text : Shape → String
  | .string => "string"
  | .number => "number"
  | .boolean => "boolean"
  | .array => "array"
  | .object => "object"
  | .unknown => "unknown"

def ofTypeName : String → Shape
  | "string" => .string
  | "integer" => .number
  | "number" => .number
  | "boolean" => .boolean
  | "array" => .array
  | "object" => .object
  | _ => .unknown

/-- The type among several that counts: the first that is not `null`. -/
def firstType (types : List Value) : Value :=
  (types.find? fun v =>
    match v with
    | .text "null" => false
    | _ => true).getD .null

def ofSchema (schema : Value) : Except Failure Shape :=
  match schema with
  | .map entries =>
      match (Value.lookup "type" entries).getD .null with
      | .list types => (firstType types).shown.map ofTypeName
      | v => v.shown.map ofTypeName
  | _ => .ok .unknown

end Shape

abbrev Schema := List (String × Value)

def Schema.toValue (s : Schema) : Value := .map (s.map fun (key, v) => (.text key, v))

structure Parameter where
  name : String
  location : Location
  required : Bool
  shape : Shape
  format : Option String
  schema : Option Schema
deriving Repr

/-- Whether the last declaration of a parameter requires a value. -/
def isRequired (params : List Parameter) (name : String) : Bool :=
  (params.reverse.find? fun p => p.name == name).any (·.required)

structure RequestBody where
  contentType : String
  required : Bool
  schema : Option Schema
deriving Repr

structure Response where
  status : String
  contentType : Option String
  description : Option String
  schema : Option Schema
deriving Repr

structure Operation where
  tag : String
  id : String
  method : Method
  path : String
  summary : Option String
  description : Option String
  parameters : List Parameter
  body : Option RequestBody
  responses : List (String × Response)
deriving Repr

namespace Operation

def parametersIn (op : Operation) (location : Location) : List Parameter :=
  op.parameters.filter fun p => p.location == location

def isQuery (op : Operation) : Bool := op.method.isQuery

/-- The first response of a successful status that declares a schema. -/
def success? (op : Operation) : Option Response :=
  (op.responses.find? fun (status, response) =>
    status.startsWith "2" && response.schema.any (!·.isEmpty)).map (·.2)

end Operation

structure Model where
  operations : List Operation
  title : Option String
  version : Option String
  baseUrl : Option String
deriving Repr

/-! Operations by tag: tags in the order they are first seen, operations in their own order. -/

abbrev Groups := List (String × List Operation)

namespace Groups

/-- Put an operation at the end of its tag's group; a new tag comes last. -/
def insert (op : Operation) : Groups → Groups
  | [] => [(op.tag, [op])]
  | (tag, ops) :: rest => if tag == op.tag then (tag, ops ++ [op]) :: rest else (tag, ops) :: insert op rest

def ofOperations (ops : List Operation) : Groups := ops.foldl (fun groups op => groups.insert op) []

end Groups

def Model.groups (model : Model) : Groups := Groups.ofOperations model.operations

end QueryHooks.Api
