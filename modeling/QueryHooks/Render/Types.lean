import QueryHooks.Naming.Names
import QueryHooks.TypeScript.Code
import QueryHooks.TypeScript.Types

/-! The file of parameter types: an interface for each operation. -/

namespace QueryHooks.Render

open QueryHooks.Api (Model Operation)
open QueryHooks.TypeScript (Code)
open QueryHooks.TypeScript.Code

namespace Types

/-- The members of an operation's interface: path parameters first, then those of the query. -/
def members (op : Operation) : List String :=
  (op.parametersIn .path).map (TypeScript.member false) ++
    (op.parametersIn .query).map (TypeScript.member true)

def interfaceCode (op : Operation) : List Code :=
  [.blank,
    braces ("export interface " ++ Naming.paramsTypeName op ++ " ")
      ((members op).map fun m => .line (m ++ ";")) ""]

private def preamble : List Code :=
  [.line "// GENERATED TYPES",
    braces "export interface ApiResponse<T = any> " [
      .line "data: T;",
      .line "status: number;",
      .line "statusText: string;"] "",
    .blank,
    braces "export interface ApiError " [
      .line "message: string;",
      .line "status: number;",
      .line "code?: string;",
      .line "body?: any;"] "",
    .blank,
    .line "// Operation types"]

end Types

def types (model : Model) : String :=
  Code.text (Types.preamble ++ model.operations.flatMap Types.interfaceCode)

end QueryHooks.Render
