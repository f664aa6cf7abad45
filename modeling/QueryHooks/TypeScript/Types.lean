import QueryHooks.Api.Operation
import QueryHooks.TypeScript.Literal

/-! The TypeScript types of parameters, requests and responses. They are as coarse as the shapes are. -/

namespace QueryHooks.TypeScript

open QueryHooks.Api (Operation Parameter Schema Shape)

def parameterType : Shape → String
  | .number => "number"
  | .boolean => "boolean"
  | .array => "any[]"
  | .object => "Record<string, any>"
  | .string => "string"
  | .unknown => "string"

private def hasType (schema : Schema) (name : String) : Bool :=
  match schema.lookup "type" with
  | some (.text t) => t == name
  | _ => false

/-- The type that a schema's values have. An array must say what its items are. -/
def schemaType (schema : Schema) : String :=
  if hasType schema "array" && (schema.lookup "items").any Value.isTruthy then "any[]"
  else if hasType schema "object" then "Record<string, any>"
  else "any"

private theorem hasType_iff {schema : Schema} {name : String} :
    hasType schema name = true ↔ schema.lookup "type" = some (.text name) := by
  unfold hasType
  split
  · next t found => rw [found, beq_iff_eq, Option.some.injEq, Value.text.injEq]
  · next other => exact iff_of_false Bool.false_ne_true (other name)

theorem schemaType_eq_list_iff {schema : Schema} : schemaType schema = "any[]" ↔
    schema.lookup "type" = some (.text "array") ∧ (schema.lookup "items").any Value.isTruthy = true := by
  rw [← hasType_iff, ← Bool.and_eq_true, schemaType]
  split
  · next listed => exact iff_of_true rfl listed
  · next other => exact iff_of_false (by split <;> decide) other

theorem schemaType_eq_record_iff {schema : Schema} :
    schemaType schema = "Record<string, any>" ↔ schema.lookup "type" = some (.text "object") := by
  rw [← hasType_iff, schemaType]
  split
  · next listed =>
      rw [Bool.and_eq_true, hasType_iff] at listed
      refine iff_of_false (by decide) fun object => ?_
      rw [hasType_iff, listed.1] at object
      exact absurd object (by simp)
  · split
    · next object => exact iff_of_true rfl object
    · next other => exact iff_of_false (by decide) other

theorem schemaType_cases (schema : Schema) : schemaType schema ∈ ["any[]", "Record<string, any>", "any"] := by
  unfold schemaType
  split
  · decide
  · split <;> decide

def responseType (op : Operation) : String :=
  match op.success?.bind (·.schema) with
  | some schema => schemaType schema
  | none => "any"

theorem responseType_cases (op : Operation) : responseType op ∈ ["any[]", "Record<string, any>", "any"] := by
  unfold responseType
  split
  · exact schemaType_cases _
  · decide

def bodyType : String := "any"

/-- A member of a type: a parameter's name and type. Where members may be optional, those not required are. -/
def member (optional : Bool) (p : Parameter) : String :=
  property p.name ++ (if optional && !p.required then "?" else "") ++ ": " ++ parameterType p.shape

def group (optional : Bool) (params : List Parameter) (otherwise : String) : String :=
  if params.isEmpty then otherwise
  else "\x7b " ++ "; ".intercalate (params.map (member optional)) ++ " \x7d"

/-- The type of what a hook is called with, and of a body where there is one. -/
def paramsType (op : Operation) (body : Option String) : String :=
  let path := group false (op.parametersIn .path) "Record<string, never>"
  let query := group true (op.parametersIn .query) "Record<string, never>"
  let headers := group true (op.parametersIn .header) "Record<string, string>"
  let lines :=
    ["  path?: " ++ path ++ ";", "  query?: " ++ query ++ ";", "  headers?: " ++ headers ++ ";"] ++
      body.toList.map fun t => "  body?: " ++ t ++ ";"
  "\x7b\n" ++ "\n".intercalate lines ++ "\n\x7d"

end QueryHooks.TypeScript
