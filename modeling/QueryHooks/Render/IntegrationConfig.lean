import QueryHooks.Integration
import QueryHooks.Text.Lines
import QueryHooks.TypeScript.Code
import QueryHooks.TypeScript.Literal

/-! The file that repeats the integration descriptor as source text. -/

namespace QueryHooks.Render

open QueryHooks.TypeScript (Code)
open QueryHooks.TypeScript.Code

namespace IntegrationConfig

/-- Indent the lines of a text but its first by two spaces. Every kind of line end becomes `\n`, and an empty line stays empty. -/
def indentRest (text : String) : String :=
  match Text.lines (text.toList ++ ['\n']) with
  | [] => ""
  | first :: rest =>
      String.ofList (first ++ rest.flatMap fun line =>
        '\n' :: (if line.isEmpty then [] else ' ' :: ' ' :: line))

def headersValue (headers : List (String × String)) : Value :=
  .record (headers.map fun (name, text) => (name, .text text))

end IntegrationConfig

def integrationConfig (i : Integration) : String :=
  let headers := IntegrationConfig.headersValue (i.headers.getD [])
  Code.text [
    .line "// GENERATED FILE",
    .line "// OpenAPI-TS Integration Configuration",
    braces "export const openApiTsConfig = " [
      .line ("typesPath: " ++ TypeScript.string i.typesPath ++ ","),
      .line ("baseUrl: " ++ TypeScript.string (i.baseUrl.getD "") ++ ","),
      .line ("headers: " ++ IntegrationConfig.indentRest (TypeScript.object headers) ++ ",")] " as const;",
    .blank,
    .line "export type OpenApiTsConfig = typeof openApiTsConfig;"]

end QueryHooks.Render
