import QueryHooks.Api.Operation
import QueryHooks.Naming.Names
import QueryHooks.TypeScript.Code
import QueryHooks.TypeScript.PathExpression
import QueryHooks.TypeScript.Types

/-! The files of hooks: one for each operation, a query hook for reads and a mutation hook for all else. -/

namespace QueryHooks.Render

open QueryHooks.Api (Groups Method Operation)
open QueryHooks.TypeScript (Accessor Code)
open QueryHooks.TypeScript.Code

/-- What a hook file imports the other files from. -/
inductive ImportBase
  | sibling
  | parent
deriving DecidableEq, Repr

def ImportBase.text : ImportBase → String
  | .sibling => "./"
  | .parent => "../"

/-- A hook, its texts ready to be put in place. -/
structure Hook where
  name : String
  namespaceKey : String
  functionName : String
  method : Method
  responseType : String
  variablesType : String
  pathExpression : String
  hasBody : Bool
deriving DecidableEq, Repr

namespace Hook

/-- What the path parameters of queries and of mutations are read from. -/
def accessor (isQuery : Bool) : Accessor := .ofText (if isQuery then "params?.path" else "path?")

def ofOperation (tag : String) (op : Operation) : Hook :=
  let hasBody := !op.isQuery && op.body.isSome
  { name := Naming.hookName op
    namespaceKey := Naming.tagKey tag
    functionName := Naming.functionName op
    method := op.method
    responseType := TypeScript.responseType op
    variablesType := TypeScript.paramsType op (if hasBody then some TypeScript.bodyType else none)
    pathExpression := TypeScript.pathExpression op.path (op.parametersIn .path) (accessor op.isQuery)
    hasBody := hasBody }

def keyFactory (h : Hook) : String := "queryKeys." ++ h.namespaceKey ++ "." ++ h.functionName

def head (h : Hook) : Code := .line ("export const " ++ h.name ++ " = <TData = " ++ h.responseType ++ ">(")

def requestLines (h : Hook) (query : String) : List Code :=
  [.line ("const requestPath = " ++ h.pathExpression ++ ";"),
    .line ("const search = serializeQuery(" ++ query ++ ");")]

def request (h : Hook) (settings : List Code) : Code :=
  braces ("return client.request<TData>('" ++ h.method.wireText ++ "', requestPath + search, ") settings ");"

def retryLines : List Code :=
  [.line "retry?: boolean | number;",
    .line "retryDelay?: number | ((retryCount: number) => number);"]

def queryCode (h : Hook) : List Code :=
  [.blank,
    h.head,
    .inner [
      .line ("params?: " ++ h.variablesType ++ ","),
      braces "options?: " (
        [.line "enabled?: boolean;",
          .line "staleTime?: number;",
          .line "gcTime?: number;"] ++ retryLines ++
        [.line "refetchOnWindowFocus?: boolean;",
          .line "refetchOnMount?: boolean;",
          .line "refetchOnReconnect?: boolean;"]) ""],
    .line ") =>",
    .inner [
      braces "useQuery<TData, ApiError>(" [
        .line ("queryKey: " ++ h.keyFactory ++ "(params?.query),"),
        braces ("queryFn: async (" ++ inBraces "signal" ++ ") => ") (
          h.requestLines "params?.query" ++
          [h.request [
            .line "headers: params?.headers ?? undefined,",
            .line "signal,"]]) ",",
        .line "...options,"] ");"]]

def destructured (h : Hook) : String :=
  inBraces (if h.hasBody then "path, query, headers, body" else "path, query, headers")

def mutationCode (h : Hook) : List Code :=
  [.blank,
    h.head,
    .inner [
      braces "options?: " (
        [.line "onSuccess?: (data: TData) => void;",
          .line "onError?: (error: ApiError) => void;"] ++ retryLines) ""],
    .line ") =>",
    .inner [
      braces ("useMutation<TData, ApiError, " ++ h.variablesType ++ ">(") [
        braces ("mutationFn: async (" ++ h.destructured ++ ") => ") (
          h.requestLines "query" ++
          [h.request (
            (if h.hasBody then [.line "body: body === undefined ? undefined : JSON.stringify(body),"] else []) ++
            [.line ("headers: headers ? " ++ inBraces "...headers" ++ " : undefined,"),
              .line "retry: false,"])]) ",",
        .line "...options,"] ");"]]

def code (h : Hook) : List Code := if h.method.isQuery then h.queryCode else h.mutationCode

end Hook

namespace Hooks

def importLine (what : String) (module : String) : Code :=
  .line ("import " ++ what ++ " from '" ++ module ++ "';")

def serializer : Code :=
  braces "const serializeQuery = (input?: Record<string, unknown>) => " [
    .line "if (!input) return \"\";",
    .blank,
    .line "const searchParams = new URLSearchParams();",
    .blank,
    braces "Object.entries(input).forEach(([key, value]) => " [
      .line "if (value === undefined || value === null) return;",
      .blank,
      braces "if (Array.isArray(value)) " [
        .line "value.forEach((item) => searchParams.append(key, String(item)));",
        .line "return;"] "",
      .blank,
      .line "searchParams.append(key, String(value));"] ");",
    .blank,
    .line "const qs = searchParams.toString();",
    .line "return qs ? \x60?$\x7bqs\x7d\x60 : \"\";"] ";"

def preamble (base : ImportBase) : List Code :=
  [.line "// GENERATED FILE",
    importLine (inBraces "useQuery, useMutation") "@tanstack/react-query",
    importLine (inBraces "createClient") (base.text ++ "client.js"),
    importLine (inBraces "queryKeys") (base.text ++ "queryKeys.js"),
    importLine ("type " ++ inBraces "ApiError") (base.text ++ "client.js"),
    .blank,
    .line "const client = createClient();",
    .blank,
    serializer]

def body (tag : String) (ops : List Operation) : List Code :=
  ops.flatMap fun op => (Hook.ofOperation tag op).code

end Hooks

def hooksOfTag (tag : String) (ops : List Operation) : String :=
  Code.text (Hooks.preamble .parent ++ Hooks.body tag ops)

def combinedHooks (groups : Groups) : String :=
  Code.text (Hooks.preamble .sibling ++ groups.flatMap fun (tag, ops) => Hooks.body tag ops)

end QueryHooks.Render
