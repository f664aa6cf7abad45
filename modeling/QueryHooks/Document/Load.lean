import QueryHooks.Document.Answer
import QueryHooks.Failure
import QueryHooks.Json.Reader
import QueryHooks.Text.Letters
import QueryHooks.Url.Validity
import QueryHooks.Value.Loop
import QueryHooks.Value.Shown
import QueryHooks.World
import QueryHooks.Yaml.Reader

/-! The declared version of an API description. -/

namespace QueryHooks.Document

private def refuse {α : Type} (problem : VersionProblem) : Except Failure α := .error (.spec (.version problem))

/-- The version of a document, if it is one of the third generation. -/
def version (document : Value) : Except Failure String :=
  match document.part? "swagger", document.part? "openapi" with
  | some v, _ => do refuse (.swagger (← v.shown))
  | none, none => refuse .undeclared
  | none, some .null => refuse .undeclared
  | none, some v => do
      let text ← v.shown
      if text.startsWith "3." then return text else refuse (.unsupported text)

end QueryHooks.Document

/-! Loading a document from standard input, the network or a file. -/

namespace QueryHooks.Document

inductive Hint
  | json
  | yaml
  | any
deriving DecidableEq, Repr

private def fail {α : Type} (problem : SourceProblem) : Except Failure α := .error (.spec (.source problem))

def mappingOf (v : Value) : Except Failure Value :=
  match v with
  | .map entries => .ok (.map entries)
  | .null => fail (.notMapping "empty document")
  | v => fail (.notMapping v.kindName)

def parseYaml (jsonReason : Option String) (chars : List Char) : Except Failure Value :=
  match Yaml.read chars with
  | .ok v => mappingOf v
  | .error (.malformed problem) => fail (.unparsable jsonReason problem.message)
  | .error .unrepresentable => .error .unexpected

def jsonMapping (v : Value) : Except Failure Value :=
  match v with
  | .map entries => .ok (.map entries)
  | v => fail (.notMapping v.kindName)

/-- The mapping that a text holds. JSON comes first unless YAML is expected, and YAML second unless JSON is. -/
def parse (hint : Hint) (text : String) : Except Failure Value :=
  let chars := text.toList
  if hint == .yaml then parseYaml none chars
  else
    match Json.read chars with
    | .ok v => jsonMapping v
    | .error (.malformed problem position) =>
        let reason := Json.Problem.messageAt chars position problem
        if hint == .json then fail (.invalidJson reason) else parseYaml (some reason) chars
    | .error _ => .error .unexpected

def decodingMessage (failure : Text.Utf8.Failure) : String :=
  let place := match failure.culprits with
    | [byte] =>
        let digits := String.ofList (Text.Quoted.hexDigits 2 byte.toNat)
        s!"byte 0x{digits} in position {failure.position}"
    | culprits =>
        let last := failure.position + culprits.length - 1
        s!"bytes in position {failure.position}-{last}"
  s!"'utf-8' codec can't decode {place}: {failure.refusal.message}"

/-- The text of a file: every line end reads as `\n`. -/
def textOf (octets : List UInt8) : Except String String :=
  match Text.Utf8.decode octets with
  | .error failure => .error (decodingMessage failure)
  | .ok chars => .ok (String.ofList (Text.universalNewlines chars))

/-- The expected format of a file, by the ending of its name. -/
def hintOfPath (p : Path) : Hint :=
  match Text.lowerText p.suffix with
  | ".json" => .json
  | ".yaml" => .yaml
  | ".yml" => .yaml
  | _ => .any

def occursIn (part text : List Char) : Bool :=
  part.isPrefixOf text ||
    match text with
    | [] => false
    | _ :: rest => occursIn part rest

/-- The expected format of an answer, by its content type and else by the ending of the address. -/
def hintOfAnswer (url contentType : String) : Hint :=
  let mentions (part : String) : Bool := occursIn part.toList contentType.toList
  if mentions "json" then .json
  else if mentions "yaml" || mentions "yml" then .yaml
  else if (Text.lowerText url).endsWith ".yaml" || (Text.lowerText url).endsWith ".yml" then .yaml
  else .any

/-- Whether a refusal means that there is nothing at a path. -/
def meansMissing : Refusal → Bool
  | .missing => true
  | .notDirectory => true
  | _ => false

def ofFile (world : World) (path : String) : Except Failure Value :=
  let p := Path.ofText path
  if !isNameable path then fail (.missing path)
  else
    match world.disk.find world.workdir p with
    | .error refusal => if meansMissing refusal then fail (.missing path) else .error .unexpected
    | .ok (_, .directory) => fail (.missing path)
    | .ok (_, .file octets) =>
        match textOf octets with
        | .error reason => fail (.unreadable path reason)
        | .ok text =>
            if Text.isBlankText text then fail (.empty path) else parse (hintOfPath p) text

/-- The document of an answer. One whose bytes stand for no text is not expected. -/
def ofAnswer (url : String) (headers : List (String × String)) (body : String) : Except Failure Value :=
  let contentType := Answer.header? headers "content-type"
  match Answer.text? contentType body with
  | some text => parse (hintOfAnswer url (contentType.getD "")) text
  | none => .error .unexpected

def ofUrl (world : World) (url : String) : Except Failure Value :=
  if !Url.isValid url.toList then .error .unexpected
  else
    match world.fetch url with
    | .failure reason => fail (.unreachable url reason)
    | .answer status headers body =>
        if !Answer.areHeaders headers || !Text.Half.areWhole body.toList then .error .unexpected
        else if Answer.areOfPacked headers && 1 < body.utf8ByteSize then
          fail (.unreachable url Answer.packingMessage)
        else if status < 200 || 299 < status then fail (.status status url)
        else ofAnswer url headers body

/-- A document by its file path or address. -/
def load (world : World) (source : String) : Except Failure Value :=
  if isUrl source then ofUrl world source else ofFile world source

def ofInput (world : World) : Except Failure Value :=
  if Text.isBlankText world.stdin then fail .noInput else parse .any world.stdin

/-- The document that a run is about: `-` names standard input. -/
def loadRoot (world : World) (source : String) : Except Failure Value :=
  if source == "-" then ofInput world else load world source

end QueryHooks.Document
