import QueryHooks.Api.Operation
import QueryHooks.Naming.Names
import QueryHooks.TypeScript.Code
import QueryHooks.TypeScript.Literal

/-! The file of query keys: a namespace for each tag, and in it a factory for each operation. -/

namespace QueryHooks.Render

open QueryHooks.Api (Groups Operation)
open QueryHooks.TypeScript (Code)
open QueryHooks.TypeScript.Code

structure KeyEntry where
  name : String
  isQuery : Bool
deriving DecidableEq, Repr

structure KeyGroup where
  key : String
  entries : List KeyEntry
deriving DecidableEq, Repr

def KeyEntry.ofOperation (op : Operation) : KeyEntry := ⟨Naming.functionName op, op.isQuery⟩

def KeyGroup.ofGroups (groups : Groups) : List KeyGroup :=
  groups.map fun (tag, ops) => ⟨Naming.tagKey tag, ops.map KeyEntry.ofOperation⟩

namespace QueryKeys

def factory (key : String) (e : KeyEntry) : Code :=
  .line (e.name ++ ": (params?: any) => [" ++ TypeScript.string key ++ ", " ++ TypeScript.string e.name ++
    ", params ?? " ++ emptyBraces ++ "] as const,")

def groupCode (g : KeyGroup) : Code :=
  braces (g.key ++ ": ")
    (.line ("root: [" ++ TypeScript.string g.key ++ "] as const,") :: g.entries.map (factory g.key)) ","

end QueryKeys

def queryKeys (groups : Groups) : String :=
  Code.text [
    .line "// GENERATED FILE",
    braces "export const queryKeys = " ((KeyGroup.ofGroups groups).map QueryKeys.groupCode) " as const;"]

/-! The file of invalidation helpers. Only queries are cached, so only they have one. -/

namespace Invalidate

def helper (key : String) (e : KeyEntry) : Code :=
  .line (e.name ++ ": (params?: any) => qc.invalidateQueries(" ++
    inBraces ("queryKey: queryKeys." ++ key ++ "." ++ e.name ++ "(params)") ++ "),")

def groupCode (g : KeyGroup) : Code :=
  braces (g.key ++ ": ") ((g.entries.filter (·.isQuery)).map (helper g.key)) ","

end Invalidate

def invalidate (groups : Groups) : String :=
  Code.text [
    .line "// GENERATED FILE",
    .line ("import type " ++ inBraces "QueryClient" ++ " from '@tanstack/react-query';"),
    .line ("import " ++ inBraces "queryKeys" ++ " from './queryKeys.js';"),
    .blank,
    braces "export const invalidate = (qc: QueryClient) => ("
      ((KeyGroup.ofGroups groups).map Invalidate.groupCode) ");"]

end QueryHooks.Render
