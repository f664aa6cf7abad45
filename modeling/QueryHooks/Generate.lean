import QueryHooks.Api.Extract
import QueryHooks.Write

/-! A run of the generator: load the description, plan the files, and write them unless the run is a trial. -/

namespace QueryHooks

open QueryHooks.Api (Model)

structure Generation where
  files : List PlannedFile
  written : List String
  operationCount : Nat
  integrationConfigured : Bool
  outDir : String
  dryRun : Bool
deriving DecidableEq, Repr

namespace Generation

def planned (world : World) (options : Options) : Noted Generation := do
  let model ← Model.load world options.schemaSource
  let integration ← Integration.load world options.openapiTsConfig
  let tags := ", ".intercalate (model.groups.map (·.1))
  .say (.debug s!"Grouped operations into {model.groups.length} tag(s): {tags}")
  return {
    files := plan options model integration
    written := []
    operationCount := model.operations.length
    integrationConfigured := integration.isSome
    outDir := options.outDir
    dryRun := options.dryRun }

end Generation

structure Run where
  disk : Disk
  notes : List Note
  result : Except Failure Generation

/-- Generate before a listener. Nothing is written before the whole plan is there. -/
def generate (listener : Noted.Listener) (world : World) (options : Options) : Run :=
  let start := (Generation.planned world options).heard listener
  match start.result with
  | .error failure => ⟨world.disk, start.notes, .error failure⟩
  | .ok generation =>
      if options.dryRun then
        ⟨world.disk, start.notes ++ [.debug "Dry run: no files written"], .ok generation⟩
      else
        let outcome := Write.files listener world.disk world.workdir options.outDir generation.files world.host
        let place (p : Path) : String := Path.placeText (p.resolve world.workdir)
        { disk := outcome.disk
          notes := start.notes ++ outcome.notes
          result := outcome.written.map fun paths => { generation with written := paths.map place } }

end QueryHooks
