import QueryHooks.Proofs.Api.MovedOut
import QueryHooks.Proofs.Api.Shape
import QueryHooks.TypeScript.Types

/-!
The types of responses beside the shapes of their schemas. The two are found apart: a shape is also known by a list of
types, and a type passes over schemas that are empty.
-/

namespace QueryHooks.TypeScript

open QueryHooks.Api (Model Operation Schema Shape)

variable {op : Operation} {schema : Schema}

/-- Whether a response is successful and declares a schema, be it an empty one. -/
def isTyped (entry : String × Api.Response) : Bool := entry.1.startsWith "2" && entry.2.schema.isSome

/-- The schema of the first successful response that declares one. -/
def declaredSchema? (op : Operation) : Option Schema := (op.responses.find? isTyped).bind (·.2.schema)

/-- The schema of the first successful response that declares one with something in it. -/
def filledSchema? (op : Operation) : Option Schema := op.success?.bind (·.schema)

/-- Whether a schema says what the items of a list are. -/
def hasItems (schema : Schema) : Prop := (schema.lookup "items").any Value.isTruthy = true

theorem responseType_eq (op : Operation) : responseType op = (filledSchema? op).elim "any" schemaType := by
  unfold responseType filledSchema?
  cases op.success?.bind (·.schema) <;> rfl

/-- A stronger condition finds the same item if the first item of the weaker one fulfils it. -/
private theorem find?_eq_find? {α : Type} {p q : α → Bool} {items : List α} (weaker : ∀ a, p a = true → q a = true)
    (first : ∀ a, items.find? q = some a → p a = true) : items.find? p = items.find? q := by
  cases found : items.find? q with
  | none => exact List.find?_eq_none.2 fun a inside holds => List.find?_eq_none.1 found a inside (weaker a holds)
  | some a =>
      obtain ⟨-, before, after, rfl, earlier⟩ := List.find?_eq_some_iff_append.1 found
      refine List.find?_eq_some_iff_append.2 ⟨first a found, before, after, rfl, fun b inside => ?_⟩
      rw [Bool.not_eq_true', ← Bool.not_eq_true]
      exact fun holds => absurd (weaker b holds) (by simpa using earlier b inside)

/-- The first declared schema is the one that counts, unless it is empty. -/
theorem filledSchema?_eq (op : Operation) (filled : declaredSchema? op ≠ some []) : filledSchema? op = declaredSchema? op := by
  unfold filledSchema? declaredSchema? Operation.success? at *
  rw [find?_eq_find? (q := isTyped), Option.bind_map]
  · rfl
  · rintro ⟨status, response⟩ holds
    obtain ⟨success, filled⟩ := Bool.and_eq_true_iff.1 holds
    exact Bool.and_eq_true_iff.2 ⟨success, Option.isSome_of_any filled⟩
  · rintro ⟨status, response⟩ found
    have typed : isTyped (status, response) = true := List.find?_some found
    obtain ⟨success, declares⟩ := Bool.and_eq_true_iff.1 typed
    obtain ⟨schema, declared⟩ := Option.isSome_iff_exists.1 declares
    rw [found] at filled
    have nonEmpty : schema ≠ [] := fun empty => filled (by rw [Option.bind_some, declared, empty])
    refine Bool.and_eq_true_iff.2 ⟨success, ?_⟩
    rw [declared]
    simpa using nonEmpty

/-- Whether the type of a response is that of its schema's shape: of the first schema that is declared. -/
structure AgreesWithShape (op : Operation) : Prop where
  list : responseType op = "any[]" ↔ ∃ schema, declaredSchema? op = some schema ∧
    Shape.ofSchema schema.toValue = .ok .array ∧ hasItems schema
  record : responseType op = "Record<string, any>" ↔ ∃ schema, declaredSchema? op = some schema ∧
    Shape.ofSchema schema.toValue = .ok .object
  other : responseType op ∈ ["any[]", "Record<string, any>", "any"]

theorem ofSchema_eq_array_iff : Shape.ofSchema schema.toValue = .ok .array ↔ schema.typeName? = some "array" := by
  have known : Shape.array ≠ .unknown := by decide
  rw [Shape.ofSchema_eq_ok_iff known, Option.map_eq_some_iff]
  constructor
  · rintro ⟨name, named, isArray⟩
    unfold Shape.ofTypeName at isArray
    split at isArray <;> first | exact named | cases isArray
  · exact fun named => ⟨"array", named, rfl⟩

theorem ofSchema_eq_object_iff : Shape.ofSchema schema.toValue = .ok .object ↔ schema.typeName? = some "object" := by
  have known : Shape.object ≠ .unknown := by decide
  rw [Shape.ofSchema_eq_ok_iff known, Option.map_eq_some_iff]
  constructor
  · rintro ⟨name, named, isObject⟩
    unfold Shape.ofTypeName at isObject
    split at isObject <;> first | exact named | cases isObject
  · exact fun named => ⟨"object", named, rfl⟩

/-- A type that is no list is the one that names the shape. -/
theorem typeName?_eq_some_iff {name : String} (alone : ∀ types, schema.lookup "type" ≠ some (.list types)) :
    schema.typeName? = some name ↔ schema.lookup "type" = some (.text name) := by
  unfold Schema.typeName?
  cases found : schema.lookup "type" with
  | none => exact iff_of_false nofun nofun
  | some v =>
      cases v with
      | list types => exact absurd found (alone types)
      | text other => simp [Value.asText?]
      | _ => exact iff_of_false nofun (by simp)

/-- Of a schema that is not typed by a list, the type is that of its shape. -/
theorem schemaType_of_alone (schema : Schema) (alone : ∀ types, schema.lookup "type" ≠ some (.list types)) :
    (schemaType schema = "any[]" ↔ schema.typeName? = some "array" ∧ hasItems schema) ∧
      (schemaType schema = "Record<string, any>" ↔ schema.typeName? = some "object") := by
  rw [typeName?_eq_some_iff alone, typeName?_eq_some_iff alone]
  exact ⟨schemaType_eq_list_iff, schemaType_eq_record_iff⟩

theorem schemaType_of_list {types : List Value} (listed : schema.lookup "type" = some (.list types)) :
    schemaType schema = "any" := by
  have noList : schemaType schema ≠ "any[]" := fun isList => by
    rw [schemaType_eq_list_iff, listed] at isList
    cases isList.1
  have noRecord : schemaType schema ≠ "Record<string, any>" := fun isRecord => by
    rw [schemaType_eq_record_iff, listed] at isRecord
    cases isRecord
  simpa [noList, noRecord] using schemaType_cases schema

theorem agreesWithShape_iff_typeName (op : Operation) : AgreesWithShape op ↔
    (responseType op = "any[]" ↔ ∃ schema, declaredSchema? op = some schema ∧
      schema.typeName? = some "array" ∧ hasItems schema) ∧
    (responseType op = "Record<string, any>" ↔ ∃ schema, declaredSchema? op = some schema ∧
      schema.typeName? = some "object") := by
  simp only [← ofSchema_eq_array_iff, ← ofSchema_eq_object_iff]
  exact ⟨fun agrees => ⟨agrees.list, agrees.record⟩, fun ⟨list, record⟩ => ⟨list, record, responseType_cases op⟩⟩

/--
The type of a response is that of its shape, unless the schema is empty and a later one counts in its place, or it is
typed by a list and has a shape that would show.
-/
theorem agreesWithShape_iff (op : Operation) : AgreesWithShape op ↔
    (declaredSchema? op = some [] → ∀ schema, filledSchema? op = some schema → schemaType schema = "any") ∧
    ∀ schema, declaredSchema? op = some schema → (∃ types, schema.lookup "type" = some (.list types)) →
      schema.typeName? ≠ some "object" ∧ ¬ (schema.typeName? = some "array" ∧ hasItems schema) := by
  rw [agreesWithShape_iff_typeName]
  cases declared : declaredSchema? op with
  | none =>
      have unfilled := filledSchema?_eq op (by rw [declared]; exact nofun)
      rw [responseType_eq, unfilled, declared]
      exact iff_of_true ⟨by simp, by simp⟩ ⟨nofun, nofun⟩
  | some schema =>
      -- An empty schema is passed over for the next one with a field, while the shape stays that of the first.
      by_cases empty : schema = []
      · subst empty
        have unnamed (name : String) : Schema.typeName? [] ≠ some name := nofun
        have anyway : responseType op = "any" ↔
            ∀ schema, filledSchema? op = some schema → schemaType schema = "any" := by
          rw [responseType_eq]
          cases filledSchema? op <;> simp
        have known := responseType_cases op
        simp only [List.mem_cons, List.not_mem_nil, or_false] at known
        simp only [Option.some.injEq, exists_eq_left', unnamed, false_and, iff_false, true_implies, forall_eq',
          ← anyway, List.lookup_nil, reduceCtorEq, exists_false, and_true, false_implies]
        rcases known with known | known | known <;> simp [known]
      · have filled := filledSchema?_eq op (by simpa [declared] using empty)
        rw [responseType_eq, filled, declared]
        simp only [Option.elim_some, Option.some.injEq, exists_eq_left', empty, false_implies, true_and, forall_eq']
        by_cases listed : ∃ types, schema.lookup "type" = some (.list types)
        · obtain ⟨types, listed⟩ := listed
          simp [schemaType_of_list listed, listed, and_comm]
        · have alone := schemaType_of_alone schema fun types found => listed ⟨types, found⟩
          exact iff_of_true alone fun found => absurd found listed

private def response (schema : List (String × Value)) : Value :=
  .record [("content", .record [("application/json", .record [("schema", .record schema)])])]

/-- A nullable object, and an empty schema before an object. -/
private def nullable : Value := .record [("paths", .record
  [("/a", .record [("get", .record [("responses", .record
    [("200", response [("type", .list [.text "null", .text "object"])])])])]),
   ("/b", .record [("get", .record [("responses", .record
    [("200", response []), ("201", response [("type", .text "object")])])])])])]

private def nullableModel : Model where
  operations := [("getA", "/a", [("200", [("type", .list [.text "null", .text "object"])])]),
    ("getB", "/b", [("200", []), ("201", [("type", .text "object")])])].map fun (id, path, schemas) =>
    ⟨"default", id, .get, path, none, none, [], none, schemas.map fun (status, schema) =>
      (status, ⟨status, some "application/json", none, some schema⟩)⟩
  title := none
  version := none
  baseUrl := none

private theorem nullable_extractIn :
    Model.extractIn (.ofDocuments []) [] nullable (some "api.json") = .ok nullableModel := by
  refine Model.extractIn_of_resolveIn nullable 30 (by decide) (by decide) ?room ?done ?model
  case room => with_unfolding_all rfl
  case done => with_unfolding_all rfl
  case model => with_unfolding_all rfl

/-- The nullable object has the shape of an object and no type, and the empty schema no shape and the later's type. -/
theorem nullable_disagrees :
    ∃ document model listed emptied,
      Model.extractIn (.ofDocuments []) [] document (some "api.json") = .ok model ∧
      model.operations = [listed, emptied] ∧
      declaredSchema? listed = some [("type", .list [.text "null", .text "object"])] ∧
      responseType listed = "any" ∧ ¬ AgreesWithShape listed ∧
      declaredSchema? emptied = some [] ∧ responseType emptied = "Record<string, any>" ∧
      ¬ AgreesWithShape emptied := by
  have listed : declaredSchema? (nullableModel.operations[0]) =
      some [("type", .list [.text "null", .text "object"])] := by
    with_unfolding_all rfl
  have emptied : declaredSchema? (nullableModel.operations[1]) = some [] := by with_unfolding_all rfl
  refine ⟨_, _, _, _, nullable_extractIn, rfl, listed, by decide +kernel, fun agrees => ?_, emptied, by decide +kernel,
    fun agrees => ?_⟩
  · exact absurd (agrees.record.2 ⟨_, listed, ofSchema_eq_object_iff.2 rfl⟩) (by decide +kernel)
  · obtain ⟨schema, declared, isObject⟩ := agrees.record.1 (by decide +kernel)
    obtain rfl : [] = schema := Option.some.inj (emptied.symm.trans declared)
    cases ofSchema_eq_object_iff.1 isObject

end QueryHooks.TypeScript
