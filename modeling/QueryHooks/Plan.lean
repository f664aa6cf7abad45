import QueryHooks.Options
import QueryHooks.Render.Client
import QueryHooks.Render.Hooks
import QueryHooks.Render.IntegrationConfig
import QueryHooks.Render.QueryKeys
import QueryHooks.Render.Types

/-! The files that a run generates, before any of them is written. -/

namespace QueryHooks

open QueryHooks.Api (Groups Model)

/-- A file to write: its path below the output directory and its text. -/
structure PlannedFile where
  path : String
  contents : String
deriving DecidableEq, Repr

namespace Plan

def usualBaseUrl : String := "/api"

def firstNonEmpty (choices : List (Option String)) (otherwise : String) : String :=
  (choices.filterMap id |>.find? (· != "")).getD otherwise

/-- The address that the client starts from: the options go before the integration, and that before the API's own. -/
def baseUrl (options : Options) (model : Model) (integration : Option Integration) : String :=
  firstNonEmpty [options.baseUrl, integration.bind (·.baseUrl), model.baseUrl] usualBaseUrl

/-- The files of hooks: one for each tag, or one for all. -/
def hookFiles (groups : Groups) (byTag : Bool) (extension : String) : List PlannedFile :=
  if byTag then
    groups.map fun (tag, ops) => ⟨Naming.hooksPath tag extension, Render.hooksOfTag tag ops⟩
  else [⟨Naming.combinedHooksPath extension, Render.combinedHooks groups⟩]

def coreFiles (options : Options) (model : Model) (integration : Option Integration) : List PlannedFile :=
  let extension := options.extension
  [⟨s!"client.{extension}", Render.client (baseUrl options model integration) integration⟩,
    ⟨s!"queryKeys.{extension}", Render.queryKeys model.groups⟩,
    ⟨s!"invalidate.{extension}", Render.invalidate model.groups⟩]

def typeFiles (options : Options) (model : Model) : List PlannedFile :=
  let extension := options.extension
  if options.generateTypes then [⟨s!"types.{extension}", Render.types model⟩] else []

def integrationFiles (options : Options) (integration : Option Integration) : List PlannedFile :=
  let extension := options.extension
  integration.toList.map fun i => ⟨s!"openapi-ts.config.{extension}", Render.integrationConfig i⟩

end Plan

/-- The files that a run generates, in the order in which they are written. -/
def plan (options : Options) (model : Model) (integration : Option Integration) : List PlannedFile :=
  Plan.coreFiles options model integration ++ Plan.typeFiles options model ++
    Plan.hookFiles model.groups options.groupByTag options.extension ++
    Plan.integrationFiles options integration

end QueryHooks
