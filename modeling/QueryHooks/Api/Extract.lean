import QueryHooks.Api.Operation
import QueryHooks.Bundle.Inline
import QueryHooks.Document.Load
import QueryHooks.Naming.Names
import QueryHooks.Noted
import QueryHooks.Value.Loop

/-! The operations that a bundled document declares. -/

namespace QueryHooks.Api

def field (v : Value) (name : String) : Value := (v.part? name).getD .null

/-- The plain form of a value that is there. -/
def displayed? : Value → Except Failure (Option String)
  | .null => .ok none
  | v => v.shown.map some

/-- The members of a value that has any, the keys of a mapping and the characters of a text among them. -/
def members? : Value → Option (List Value)
  | .list items => some (items.map (Value.list items).partOf)
  | .map entries => some (entries.map (·.1))
  | .text s => some (s.toList.map fun c => .text (String.singleton c))
  | .set members => some members
  | .pair first second => some [first, second]
  | .bytes octets => some (octets.map fun byte => .int (Int.ofNat byte.toNat))
  | _ => none

def listed (v : Value) : Except Failure (List Value) :=
  if v.isTruthy then
    match members? v with
    | some members => .ok members
    | none => .error .unexpected
  else .ok []

def first? : Value → Option Value
  | .list (v :: rest) => some ((Value.list (v :: rest)).partOf v)
  | .text s => s.toList.head?.map fun c => .text (String.singleton c)
  | .pair first _ => some first
  | .bytes (byte :: _) => some (.int (Int.ofNat byte.toNat))
  | .map entries => (entries.find? fun e => Value.sameKey e.1 (.int 0)).map fun e => (Value.map entries).partOf e.2
  | _ => none

def tagOf (tags : Value) : Except Failure String :=
  if tags.isTruthy then
    match first? tags with
    | some v => v.shown
    | none => .error .unexpected
  else .ok "default"

def schemaKey? : Value → Option String
  | .text s => some s
  | .bytes octets =>
      match Text.Utf8.decode octets with
      | .ok chars => some (String.ofList chars)
      | .error _ => none
  | _ => none

/-- Store an entry of a schema. A key that is there keeps its place and takes the new value. -/
def putKey (key : String) (v : Value) : Schema → Schema
  | [] => [(key, v)]
  | (k, old) :: rest => if k == key then (k, v) :: rest else (k, old) :: putKey key v rest

/-- A schema, if it is a mapping. Its keys must be texts. -/
def schemaOf (part : ModelPart) (v : Value) : Except Failure (Option Schema) :=
  match v with
  | .map entries =>
      let bad := entries.filter fun e => (schemaKey? e.1).isNone
      if bad.isEmpty then
        let kept := entries.filterMap fun e => (schemaKey? e.1).map fun key => (key, e.2)
        .ok (some (kept.foldl (fun schema (key, v) => putKey key v schema) []))
      else .error (.spec (.malformed part bad.length))
  | _ => .ok none

/-- Where an entry of a parameter list is sent, if it is a parameter: a mapping with a name and a known place. -/
def locationOf? (entries : List (Value × Value)) : Option Location :=
  if (Value.lookup "name" entries).isNone then none
  else
    match Value.lookup "in" entries with
    | none => some .query
    | some (.text place) => Location.ofText? place
    | some _ => none

/-- The shape of a parameter; one that its schema leaves open is a text. -/
def parameterShape (schema : Value) : Except Failure Shape :=
  (Shape.ofSchema schema).map fun shape => if shape == .unknown then .string else shape

def parameterOf (declared : Value) (location : Location) : Except Failure Parameter := do
  let schema := field declared "schema"
  return {
    name := ← (field declared "name").shown
    location := location
    required := (field declared "required").isTruthy
    shape := ← parameterShape schema
    format := ← displayed? (field schema "format")
    schema := ← schemaOf .parameter schema }

/-- The parameters among the entries of a list; other entries are passed over. -/
def parametersOf : List Value → Except Failure (List Parameter)
  | [] => .ok []
  | .map entries :: rest =>
      match locationOf? entries with
      | none => parametersOf rest
      | some location => do
          let p ← parameterOf (.map entries) location
          return p :: (← parametersOf rest)
  | _ :: rest => parametersOf rest

/-- The first content type of a content mapping, and its schema if that is a mapping. -/
def firstContent (content : Value) : Except Failure (Option String × Value) :=
  match content with
  | .map ((key, media) :: _) => do
      let contentType ← if key.isTruthy then key.shown.map some else .ok none
      return (contentType, field (content.partOf media) "schema")
  | _ => .ok (none, .null)

def bodyOf (body : Value) : Except Failure (Option RequestBody) := do
  match ← firstContent (field body "content") with
  | (none, _) => return none
  | (some contentType, schema) =>
      if contentType.isEmpty then return none
      else
        return some {
          contentType := contentType
          required := (field body "required").isTruthy
          schema := ← schemaOf .requestBody schema }

def responseOf (status : String) (declared : Value) : Except Failure Response := do
  let (contentType, schema) ← firstContent (field declared "content")
  return {
    status := status
    contentType := contentType
    description := match field declared "description" with
      | .text s => some s
      | _ => none
    schema := ← schemaOf .response schema }

/-- Store a response. A status that is there keeps its place. -/
def putResponse (r : Response) : List (String × Response) → List (String × Response)
  | [] => [(r.status, r)]
  | (status, old) :: rest =>
      if status == r.status then (status, r) :: rest else (status, old) :: putResponse r rest

def responsesAfter (container : Value) (found : List (String × Response)) : List (Value × Value) →
    Except Failure (List (String × Response))
  | [] => .ok found
  | (status, declared) :: rest =>
      match container.partOf declared with
      | .map fields => do
          let r ← responseOf (← status.shown) (.map fields)
          responsesAfter container (putResponse r found) rest
      | _ => responsesAfter container found rest

def responsesOf (responses : Value) : Except Failure (List (String × Response)) :=
  match responses with
  | .map entries => responsesAfter responses [] entries
  | _ => .ok []

/-- The id of an operation: its own without braces, or one made from its method and path. -/
def idOf (declared : Value) (method : Method) (path : String) : Except Failure String :=
  if declared.isTruthy then declared.shown.map Naming.sanitize
  else .ok (Naming.synthesizedId method.text path)

/-- An operation of a path. The parameters of the path come before its own. -/
def operationOf (path : String) (shared : Value) (method : Method) (declared : Value) :
    Except Failure Operation := do
  let tag ← tagOf (field declared "tags")
  let shared ← listed shared
  let own ← listed (field declared "parameters")
  return {
    tag := tag
    id := ← idOf (field declared "operationId") method path
    method := method
    path := path
    summary := ← displayed? (field declared "summary")
    description := ← displayed? (field declared "description")
    parameters := ← parametersOf (shared ++ own)
    body := ← bodyOf (field declared "requestBody")
    responses := ← responsesOf (field declared "responses") }

def operationsOfPath (path declared : Value) : List Method → Except Failure (List Operation)
  | [] => .ok []
  | method :: rest =>
      match field declared method.text with
      | .map fields => do
          let op ← operationOf (← path.shown) (field declared "parameters") method (.map fields)
          return op :: (← operationsOfPath path declared rest)
      | _ => operationsOfPath path declared rest

def operationsOfPaths (container : Value) : List (Value × Value) → Except Failure (List Operation)
  | [] => .ok []
  | (path, declared) :: rest =>
      match container.partOf declared with
      | .map fields => do
          let here ← operationsOfPath path (.map fields) Method.all
          return here ++ (← operationsOfPaths container rest)
      | _ => operationsOfPaths container rest

def operationsOf (paths : Value) : Except Failure (List Operation) :=
  if !paths.isTruthy then .ok []
  else
    match paths with
    | .map entries => operationsOfPaths paths entries
    | v => .error (.spec (.pathsKind v.kindName))

def firstServer? (servers : Value) : Option String :=
  match servers with
  | .list (.map entries :: _) =>
      match Value.lookup "url" entries with
      | some (.text url) => some url
      | _ => none
  | _ => none

/-- The model of a bundled document, which must be a mapping. -/
def Model.ofBundled (document : Value) : Except Failure Model := do
  match document with
  | .map _ =>
      let info := field document "info"
      return {
        operations := ← operationsOf (field document "paths")
        title := ← displayed? (field info "title")
        version := ← displayed? (field info "version")
        baseUrl := firstServer? (field document "servers") }
  | _ => .error .unexpected

/-- The model of a document, the documents it refers to in a library. -/
def Model.extractIn (library : Library) (workdir : Place) (document : Value) (source : Option String) :
    Except Failure Model := do
  Model.ofBundled (← bundleIn library workdir document source)

def Model.extract (world : World) (document : Value) (source : Option String) : Except Failure Model :=
  Model.extractIn (.ofWorld world) world.workdir document source

end QueryHooks.Api

/-! The model of an API from the place where its description is found. -/

namespace QueryHooks.Api

/-- The source that references are relative to. Standard input has none. -/
def placed? (source : String) : Option String := if source == "-" then none else some source

def Model.load (world : World) (source : String) : Noted Model := do
  .say (.debug ("Loading spec from " ++ source))
  let document ← .quietly (Document.loadRoot world source)
  let version ← .quietly (Document.version document)
  .say (.debug ("OpenAPI version " ++ version))
  let model ← .quietly (Model.extract world document (placed? source))
  .say (.debug s!"Extracted {model.operations.length} operations")
  return model

end QueryHooks.Api
