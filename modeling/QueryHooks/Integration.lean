import QueryHooks.Document.Load
import QueryHooks.Noted

/-!
The integration descriptor: where generated types lie and how the API is called. It only decorates what
is generated, so a descriptor that cannot be read is reported and left out.
-/

namespace QueryHooks

structure Integration where
  typesPath : String
  baseUrl : Option String
  headers : Option (List (String × String))
deriving DecidableEq, Repr

namespace Integration

/-- Where types are looked for when a descriptor does not say. -/
def usualTypesPath : String := "./src/api/types.ts"

private def ignoring (path reason : String) : Note :=
  .warning s!"Ignoring OpenAPI-TS config {path}: {reason}"

/-- The headers with text values, and a warning for each of the others. -/
def splitHeaders (path : String) : List (Value × Value) → List (String × String) × List Note
  | [] => ([], [])
  | (name, v) :: rest =>
      let (kept, notes) := splitHeaders path rest
      match v with
      | .text s => ((name.display, s) :: kept, notes)
      | _ =>
          let header := name.display
          (kept, .warning
            s!"Ignoring header '{header}' in OpenAPI-TS config {path}: value must be a string" :: notes)

def encodingMessage (position : Nat) (run : List Char) : String :=
  let place := match run with
    | [c] =>
        let name := String.ofList (Text.Quoted.numeric ((Text.Half.unit? c).getD 0))
        s!"character '{name}' in position {position}"
    | run =>
        let last := position + run.length - 1
        s!"characters in position {position}-{last}"
  s!"'utf-8' codec can't encode {place}: surrogates not allowed"

/-- Why a text can be no path, if it cannot. -/
def namingProblem? (text : String) : Option String :=
  let isPlain (c : Char) : Bool := c == '\x00' || isPathChar c
  match text.toList.dropWhile isPlain with
  | [] => if text.toList.contains '\x00' then some "embedded null byte" else none
  | rest => some (encodingMessage (text.toList.takeWhile isPlain).length (rest.takeWhile Text.Half.isHalf))

/-- The text of the file at a path, or why there is none. -/
def readText (world : World) (path : String) : Except String String := do
  let p := Path.ofText path
  if let some reason := namingProblem? p.text then throw reason
  match world.disk.read world.workdir p with
  | .ok octets => Document.textOf octets
  | .error refusal => throw refusal.message

def ofFields (path : String) (fields : List (Value × Value)) : Option Integration × List Note :=
  let (headers, notes) := match Value.lookup "headers" fields with
    | some (.map entries) =>
        let (kept, notes) := splitHeaders path entries
        (some kept, notes)
    | _ => (none, [])
  let baseUrl := match Value.lookup "baseUrl" fields with
    | some (.text url) => some url
    | _ => none
  let made (typesPath : String) : Option Integration × List Note :=
    (some ⟨typesPath, baseUrl, headers⟩,
      notes ++ [.debug s!"OpenAPI-TS integration: types at {typesPath}"])
  match Value.lookup "typesPath" fields with
  | none => made usualTypesPath
  | some (.text "") => made usualTypesPath
  | some (.text typesPath) => made typesPath
  | some v =>
      if v.isTruthy then (none, notes ++ [ignoring path (validationErrors 1 "OpenApiTsIntegration")])
      else made usualTypesPath

/-- Leave a descriptor out, and warn of it. -/
private def ignored (path reason : String) : Noted (Option Integration) := ⟨[ignoring path reason], .ok none⟩

/-- The descriptor that a text makes. One that is nested too deep to be read is not expected. -/
def ofText (path text : String) : Noted (Option Integration) :=
  match Json.read text.toList with
  | .ok (.map fields) =>
      let (found, notes) := ofFields path fields
      ⟨notes, .ok found⟩
  | .ok _ => ignored path "expected a JSON object"
  | .error fault =>
      match fault.message? text.toList with
      | some reason => ignored path reason
      | none => .quietly (.error .unexpected)

def load (world : World) (path : Option String) : Noted (Option Integration) :=
  match path with
  | none => return none
  | some "" => return none
  | some path =>
      match readText world path with
      | .error reason => ignored path reason
      | .ok text => ofText path text

end Integration

end QueryHooks
