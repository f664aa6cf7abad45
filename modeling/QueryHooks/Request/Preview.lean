import QueryHooks.Api.Operation
import QueryHooks.Naming.Names
import QueryHooks.PathTemplate
import QueryHooks.Request.Query

/-! The path of a request. -/

namespace QueryHooks.Request

open QueryHooks.Api (Operation isRequired)

/-- The value under a name, if it is not null. Only a mapping has names. -/
def given? (values : Value) (name : String) : Except Failure (Option Value) :=
  match values with
  | .map entries =>
      match Value.lookup name entries with
      | some .null => .ok none
      | found => .ok found
  | _ => .error .unexpected

/-- The text in the place of a name between braces. -/
def fillHole (op : Operation) (values : Value) (name : String) : Except Failure String := do
  match ← given? values name with
  | some v => spelled v
  | none =>
      if isRequired (op.parametersIn .path) name then throw (.usage (.missingPathValue name op.id)) else return ""

def fillPiece (op : Operation) (values : Value) : PathTemplate.Piece → Except Failure String
  | .literal c => .ok (String.singleton c)
  | .hole name => fillHole op values name

/-- The path of an operation with values in place of names. A path without parameters stays as it is, whatever the values. -/
def path (op : Operation) (values : Value) : Except Failure String :=
  if (op.parametersIn .path).isEmpty then .ok op.path
  else do
    let parts ← (PathTemplate.ofText op.path).mapM (fillPiece op values)
    return String.join parts

end QueryHooks.Request

/-! What a hook sends, without running it. -/

namespace QueryHooks.Request

open QueryHooks.Api (Model Operation)

/-- Whether a name means an operation: its id, its function's name or its hook's. -/
def isNamed (name : String) (op : Operation) : Bool :=
  name == op.id || name == Naming.functionName op || name == Naming.hookName op

def find (model : Model) (name : String) : Except Failure Operation :=
  match model.operations.find? (isNamed name) with
  | some op => .ok op
  | none => .error (.usage (.unknownOperation name))

/-- The key that a query's result is cached under. -/
structure CacheKey where
  namespaceKey : String
  functionName : String
  query : Value

namespace CacheKey

/-- The fields of a query as they stand in a key: null and what is empty have none, and only a mapping has any. -/
def fieldsOf (query : Value) : Except Failure Value :=
  match query with
  | .map entries => .ok (.map entries)
  | .null => .ok (.map [])
  | .text "" => .ok (.map [])
  | .list [] => .ok (.map [])
  | _ => .error .unexpected

def ofOperation (op : Operation) (query : Value) : Except Failure CacheKey := do
  return ⟨Naming.tagKey op.tag, Naming.functionName op, ← fieldsOf query⟩

def toValue (key : CacheKey) : Value :=
  .list [.text key.namespaceKey, .text key.functionName, key.query]

end CacheKey

/-- A request as it is shown. Only reads are cached. -/
structure Preview where
  hook : String
  isQuery : Bool
  method : String
  path : String
  cacheKey : Option CacheKey

namespace Preview

def kindText (isQuery : Bool) : String := if isQuery then "query" else "mutation"

/-- The preview of an operation with values for its path and its query. Values that do not hold are none. -/
def ofOperation (op : Operation) (pathValues query : Value) : Except Failure Preview := do
  let path ← Request.path op (if pathValues.isTruthy then pathValues else .map [])
  let queryText ← queryString (← Fields.ofValue query)
  let cacheKey ← if op.isQuery then (CacheKey.ofOperation op query).map some else .ok none
  return {
    hook := Naming.hookName op
    isQuery := op.isQuery
    method := op.method.wireText
    path := path ++ queryText
    cacheKey := cacheKey }

def toValue (p : Preview) : Value :=
  .record (
    [("hook", .text p.hook), ("kind", .text (kindText p.isQuery)), ("method", .text p.method),
      ("path", .text p.path)] ++
    p.cacheKey.toList.map fun key => ("query_key", key.toValue))

end Preview

end QueryHooks.Request
