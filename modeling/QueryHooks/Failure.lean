import QueryHooks.Disk

/-! Why a run fails: causes, their messages and the exit code of each kind. -/

namespace QueryHooks

inductive SourceProblem
  | noInput
  | missing (path : String)
  | empty (path : String)
  | unreadable (path reason : String)
  | status (code : Nat) (url : String)
  | unreachable (url reason : String)
  | invalidJson (reason : String)
  | unparsable (json : Option String) (yaml : String)
  | notMapping (kind : String)
deriving DecidableEq, Repr

def SourceProblem.message : SourceProblem → String
  | .noInput => "No input received from stdin"
  | .missing path => s!"Spec file not found: {path}"
  | .empty path => s!"Spec file is empty: {path}"
  | .unreadable path reason => s!"Failed to read spec file {path}: {reason}"
  | .status code url => s!"HTTP {code} fetching spec from {url}"
  | .unreachable url reason => s!"Failed to fetch spec from {url}: {reason}"
  | .invalidJson reason => s!"Invalid JSON: {reason}"
  | .unparsable json yaml =>
      "Failed to parse spec as JSON or YAML" ++
        (match json with
          | none => ""
          | some reason => s!"\n  JSON error: {reason}") ++
        s!"\n  YAML error: {yaml}"
  | .notMapping kind => s!"Spec must be a JSON/YAML object (got {kind})"

inductive VersionProblem
  | swagger (version : String)
  | undeclared
  | unsupported (version : String)
deriving DecidableEq, Repr

def VersionProblem.message : VersionProblem → String
  | .swagger version =>
      s!"Swagger {version} is not supported. Only OpenAPI 3.0.x and 3.1.x are supported. " ++
        "Consider converting with https://converter.swagger.io"
  | .undeclared => "Missing 'openapi' field. Is this an OpenAPI 3.x document?"
  | .unsupported version =>
      s!"Unsupported OpenAPI version: {version}. Only OpenAPI 3.0.x and 3.1.x are supported."

inductive PointerProblem
  | notPointer
  | missingKey (segment : String)
  | badIndex (segment : String)
  | notCollection (kind : String)
deriving DecidableEq, Repr

def PointerProblem.message : PointerProblem → String
  | .notPointer => "fragment must be a JSON pointer"
  | .missingKey segment => s!"key '{segment}' not found at path"
  | .badIndex segment => s!"invalid array index '{segment}'"
  | .notCollection kind => s!"cannot navigate into {kind}"

inductive ModelPart
  | parameter
  | requestBody
  | response
deriving DecidableEq, Repr

def ModelPart.name : ModelPart → String
  | .parameter => "Parameter"
  | .requestBody => "RequestBody"
  | .response => "ResponseInfo"

/-- Counted validation errors of a record. -/
def validationErrors (count : Nat) (record : String) : String :=
  let errors := if count == 1 then "error" else "errors"
  s!"{count} validation {errors} for {record}"

/-- Why a document cannot be taken for an API description. -/
inductive SpecProblem
  | source (problem : SourceProblem)
  | version (problem : VersionProblem)
  | pointer (reference : String) (problem : PointerProblem)
  | document (reference : String) (problem : SourceProblem)
  | pathsKind (kind : String)
  | malformed (part : ModelPart) (count : Nat)
deriving DecidableEq, Repr

def SpecProblem.message : SpecProblem → String
  | .source problem => problem.message
  | .version problem => problem.message
  | .pointer reference problem => s!"Cannot resolve $ref '{reference}': {problem.message}"
  | .document reference problem => s!"Cannot resolve $ref '{reference}': {problem.message}"
  | .pathsKind kind => s!"'paths' must be an object (got {kind})"
  | .malformed part count => "Malformed OpenAPI document: " ++ validationErrors count part.name

inductive UsageProblem
  | noSchema
  | notPair (option pair : String)
  | unknownOperation (name : String)
  | missingPathValue (parameter operation : String)
deriving DecidableEq, Repr

def UsageProblem.message : UsageProblem → String
  | .noSchema =>
      "No OpenAPI schema given. Pass --schema, set SPECQUERY_SCHEMA, or add \"schema\" to specquery.json."
  | .notPair option pair => s!"Expected key=value for {option}, got '{pair}'"
  | .unknownOperation name => s!"Unknown operation: {name}"
  | .missingPathValue parameter operation =>
      s!"Missing required path parameter '{parameter}' for {operation}"

inductive ConfigProblem
  | invalidProject (path reason : String)
  | invalidOptions (count : Nat)
deriving DecidableEq, Repr

def ConfigProblem.message : ConfigProblem → String
  | .invalidProject path reason => s!"Invalid project config at {path}: {reason}"
  | .invalidOptions count => "Invalid generator options: " ++ validationErrors count "GenerateOptions"

/--
Every way in which a run can fail. An unexpected failure has no message of its own, and one that is
unprintable is not even reported.
-/
inductive Failure
  | spec (problem : SpecProblem)
  | usage (problem : UsageProblem)
  | config (problem : ConfigProblem)
  | output (target : String) (refusal : Refusal)
  | unexpected
  | unprintable
deriving DecidableEq, Repr

namespace Failure

def message : Failure → String
  | .spec problem => problem.message
  | .usage problem => problem.message
  | .config problem => problem.message
  | .output target refusal => s!"Failed to write {target}: {refusal.message}"
  | .unexpected => "Unexpected error"
  | .unprintable => "Unexpected error"

/-- The exit code that tells a bad document and a bad invocation from other failures. -/
def exitCode : Failure → Nat
  | .spec _ => 7
  | .usage _ => 2
  | .config _ => 1
  | .output .. => 1
  | .unexpected => 1
  | .unprintable => 1

end Failure

end QueryHooks
