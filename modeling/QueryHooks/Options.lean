import QueryHooks.Document.Load

/-!
The options of a run. Each comes from the first of four layers that has it: the command line, the
environment, the project's configuration and the defaults.
-/

namespace QueryHooks

structure Options where
  schemaSource : String
  outDir : String := "examples/out"
  baseUrl : Option String := none
  groupByTag : Bool := true
  generateTypes : Bool := false
  openapiTsConfig : Option String := none
  dryRun : Bool := false
  extension : String := "ts"
deriving DecidableEq, Repr

structure Arguments where
  schema : Option String := none
  out : Option String := none
  baseUrl : Option String := none
  openapiTsConfig : Option String := none
  generateTypes : Option Bool := none
  groupByTag : Option Bool := none
  dryRun : Bool := false
deriving DecidableEq, Repr

namespace Options

def projectFile : String := "specquery.json"

private def failProject {α : Type} (path reason : String) : Except Failure α :=
  .error (.config (.invalidProject path reason))

/-- The project's configuration in a directory, if it has one. -/
def project (world : World) (directory : Option String) : Except Failure (Option (List (Value × Value))) :=
  let folder := match directory with
    | none => Path.ofPlace world.workdir
    | some text => .ofText text
  let p := folder.join (.ofText projectFile)
  match world.disk.find world.workdir p with
  | .error .nameTooLong => .error .unexpected
  | .error _ => .ok none
  | .ok (_, .directory) => .ok none
  | .ok (_, .file octets) =>
      match Document.textOf octets with
      | .error reason => failProject p.text reason
      | .ok text =>
          match Json.read text.toList with
          | .error fault =>
              match fault.message? text.toList with
              | some reason => failProject p.text reason
              | none => .error .unexpected
          | .ok (.map fields) => .ok (some fields)
          | .ok _ => failProject p.text "expected a JSON object"

/-- A value of the project's configuration; null is none. -/
def projectValue? (fields : List (Value × Value)) (key : String) : Option Value :=
  match Value.lookup key fields with
  | some .null => none
  | found => found

/-- A variable of the environment that is set to some text. -/
def nonEmpty? (world : World) (name : String) : Option Value :=
  match world.setting? name with
  | some "" => none
  | some text => some (.text text)
  | none => none

/-- The effective value of each option, where a layer above the defaults has one. -/
structure Layered where
  schemaSource : Option Value
  outDir : Option Value
  baseUrl : Option Value
  openapiTsConfig : Option Value
  generateTypes : Option Value
  groupByTag : Option Value
  extension : Option Value

def layered (world : World) (fields : List (Value × Value)) (arguments : Arguments) : Layered :=
  let named (argument : Option String) (setting key : String) : Option Value :=
    ((argument.map .text).or (nonEmpty? world setting)).or (projectValue? fields key)
  let flag (argument : Option Bool) (key : String) : Option Value :=
    (argument.map .bool).or (projectValue? fields key)
  { schemaSource := named arguments.schema "SPECQUERY_SCHEMA" "schema"
    outDir := named arguments.out "SPECQUERY_OUT" "out"
    baseUrl := named arguments.baseUrl "SPECQUERY_BASE_URL" "base_url"
    openapiTsConfig := named arguments.openapiTsConfig "SPECQUERY_OPENAPI_TS_CONFIG" "openapi_ts_config"
    generateTypes := flag arguments.generateTypes "generate_types"
    groupByTag := flag arguments.groupByTag "group_by_tag"
    extension := projectValue? fields "extension" }

def textOf? : Value → Option String
  | .text s => some s
  | _ => none

def truthWords : List String := ["1", "on", "t", "true", "y", "yes"]

def falsehoodWords : List String := ["0", "off", "f", "false", "n", "no"]

/-- A switch: a truth value, zero or one, or one of the usual words in any case. -/
def boolOf? : Value → Option Bool
  | .bool b => some b
  | .int n => if n == 0 then some false else if n == 1 then some true else none
  | .float x =>
      match x.toInt? with
      | some 0 => some false
      | some 1 => some true
      | _ => none
  | .text s =>
      let word := String.ofList (s.toList.map Char.toLower)
      if truthWords.contains word then some true
      else if falsehoodWords.contains word then some false
      else none
  | _ => none

/-- An option's value, or whether the given one will not do. -/
def read {α : Type} (convert : Value → Option α) (given : Option Value) (default : α) : α × Nat :=
  match given with
  | none => (default, 0)
  | some v =>
      match convert v with
      | some a => (a, 0)
      | none => (default, 1)

/-- The options that effective values make. Each unacceptable value counts as an error. -/
def ofLayered (l : Layered) (dryRun : Bool) : Except Failure Options :=
  if !l.schemaSource.any Value.isTruthy then .error (.usage .noSchema)
  else
    let (schemaSource, e1) := read textOf? l.schemaSource ""
    let defaults : Options := { schemaSource := schemaSource, dryRun := dryRun }
    let optional (v : Value) : Option (Option String) := (textOf? v).map some
    let (outDir, e2) := read textOf? l.outDir defaults.outDir
    let (baseUrl, e3) := read optional l.baseUrl defaults.baseUrl
    let (groupByTag, e4) := read boolOf? l.groupByTag defaults.groupByTag
    let (generateTypes, e5) := read boolOf? l.generateTypes defaults.generateTypes
    let (openapiTsConfig, e6) := read optional l.openapiTsConfig defaults.openapiTsConfig
    let (extension, e7) := read textOf? l.extension defaults.extension
    let count := e1 + e2 + e3 + e4 + e5 + e6 + e7
    if count == 0 then
      .ok { defaults with
        outDir := outDir
        baseUrl := baseUrl
        groupByTag := groupByTag
        generateTypes := generateTypes
        openapiTsConfig := openapiTsConfig
        extension := extension }
    else .error (.config (.invalidOptions count))

def resolve (world : World) (arguments : Arguments) (directory : Option String) : Except Failure Options := do
  let fields := (← project world directory).getD []
  ofLayered (layered world fields arguments) arguments.dryRun

end Options

end QueryHooks
