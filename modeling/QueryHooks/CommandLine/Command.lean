import QueryHooks.CommandLine.Invocation
import QueryHooks.Generate
import QueryHooks.Report.Streams
import QueryHooks.Request.Preview
import QueryHooks.Request.Query

/-! The commands: what each does, and what it shows of its result. -/

namespace QueryHooks.CommandLine

open QueryHooks.Api (Model Operation)
open QueryHooks.Report (Item Data)

def Command.arguments : Command → Arguments
  | .generate arguments => arguments
  | .operations schema => { schema := schema }
  | .request _ schema _ _ => { schema := schema }

def Command.readsInput (world : World) (command : Command) : Bool :=
  match Options.resolve world command.arguments none with
  | .ok options => options.schemaSource == "-"
  | .error _ => false

/-- What a command leaves behind, and what it shows. -/
structure Performed where
  disk : Disk
  notes : List Note
  shown : Except Failure (List Item)

private def note (level : Level) (text : String) : Item := .note ⟨level, text⟩

/-- What a finished generation shows: a trial lists its files, and another run its count. -/
def showGeneration (g : Generation) : List Item :=
  if g.dryRun then
    g.files.map (fun file => .data (.line (Write.target g.outDir file).text)) ++
      [note .info
        s!"Dry run: {g.files.length} files for {g.operationCount} operations would be written to {g.outDir}"]
  else
    [note .success s!"Generated {g.operationCount} operations to {g.outDir}"] ++
      (if g.integrationConfigured then [note .success "OpenAPI-TS integration configured"] else []) ++
      (if g.operationCount == 0 then [note .suggestion "The spec declares no operations under 'paths'."] else [])

def performGenerate (listener : Noted.Listener) (world : World) (arguments : Arguments) : Performed :=
  match Options.resolve world arguments none with
  | .error failure => ⟨world.disk, [], .error failure⟩
  | .ok options =>
      let run := generate listener world options
      ⟨run.disk, run.notes, run.result.map showGeneration⟩

def inspected (world : World) (arguments : Arguments) : Noted Model := do
  let options ← .quietly (Options.resolve world arguments none)
  Model.load world options.schemaSource

def operationHeaders : List String := ["Tag", "Hook", "Method", "Path", "Kind"]

def operationRow (op : Operation) : List String :=
  [op.tag, Naming.hookName op, op.method.wireText, op.path, Request.Preview.kindText op.isQuery]

def showOperations (model : Model) : List Item :=
  if model.operations.isEmpty then [note .info "No operations defined in this spec."]
  else [.data (.table operationHeaders (model.operations.map operationRow))]

def previewed (model : Model) (operation : String) (path query : List String) : Except Failure Request.Preview := do
  let op ← Request.find model operation
  let pathValues ← Request.fieldsOfPairs "--path" path
  let queryValues ← Request.fieldsOfPairs "--query" query
  Request.Preview.ofOperation op pathValues.toValue queryValues.toValue

private def inspecting (world : World) (computed : Noted (List Item)) : Performed :=
  ⟨world.disk, computed.notes, computed.result⟩

def perform (listener : Noted.Listener) (world : World) (command : Command) : Performed :=
  match command with
  | .generate arguments => performGenerate listener world arguments
  | .operations _ =>
      inspecting world do
        let model ← inspected world command.arguments
        return showOperations model
  | .request operation _ path query =>
      inspecting world do
        let model ← inspected world command.arguments
        let preview ← .quietly (previewed model operation path query)
        return [.data (.response preview.toValue)]

end QueryHooks.CommandLine
