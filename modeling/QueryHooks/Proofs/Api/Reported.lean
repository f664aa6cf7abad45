import QueryHooks.Proofs.Api.Declarations
import QueryHooks.Proofs.Value.Short

/-!
A description without integers that are too long to write, in which tags have a first one and parameter lists have
members, has a model or is at fault: it has one exactly if its paths are a mapping and the keys of its schemas are names.
-/

namespace QueryHooks.Api

open QueryHooks.Value (IsShort)

variable {v item container : Value} {members : List Value} {entries : List (Value × Value)}

/-- Whether what is declared for an operation can be taken apart: its tags, its parameters and those of its path. -/
structure Declaration.IsOpen (d : Declaration) : Prop where
  tags : (field d.operation "tags").isTruthy = true → (first? (field d.operation "tags")).isSome = true
  shared : (field d.item "parameters").isTruthy = true → (members? (field d.item "parameters")).isSome = true
  own : (field d.operation "parameters").isTruthy = true → (members? (field d.operation "parameters")).isSome = true

theorem exists_of_isMap (isMap : v.isMap = true) : ∃ entries, v = .map entries := by
  cases v with
  | map entries => exact ⟨entries, rfl⟩
  | _ => cases isMap

/-! What lies in a value without long integers. -/

theorem short_field (short : v.IsShort) (name : String) : (field v name).IsShort := by
  unfold field
  cases found : v.part? name with
  | none => rfl
  | some part => exact short.ofPart found

theorem short_byte (byte : UInt8) : (Value.int (Int.ofNat byte.toNat)).IsShort := by
  have digits : 3 ≤ Text.Integer.maxDecimalDigits := by decide
  have least : 10 ^ 3 ≤ Value.unwritable := by
    unfold Value.unwritable
    generalize Text.Integer.maxDecimalDigits = n at digits
    exact Nat.pow_le_pow_right (by decide) digits
  have small : byte.toNat < 10 ^ 3 := Nat.lt_trans byte.toNat_lt (by decide)
  exact decide_eq_false (Nat.not_le.2 (Nat.lt_of_lt_of_le small least))

theorem short_members (short : v.IsShort) (taken : members? v = some members) : ∀ m ∈ members, m.IsShort := by
  intro m inside
  cases v with
  | list items =>
      cases taken
      obtain ⟨part, member, rfl⟩ := List.mem_map.1 inside
      exact short.partOf (IsShort.list_iff.1 short part member)
  | map entries =>
      cases taken
      obtain ⟨entry, member, rfl⟩ := List.mem_map.1 inside
      exact (IsShort.map_iff.1 short entry member).1
  | text s =>
      cases taken
      obtain ⟨c, -, rfl⟩ := List.mem_map.1 inside
      rfl
  | set elements =>
      cases taken
      exact IsShort.list_iff.1 short m inside
  | pair first second =>
      cases taken
      rcases List.mem_pair.1 inside with rfl | rfl
      · exact (IsShort.pair_iff.1 short).1
      · exact (IsShort.pair_iff.1 short).2
  | bytes octets =>
      cases taken
      obtain ⟨byte, -, rfl⟩ := List.mem_map.1 inside
      exact short_byte byte
  | _ => cases taken

theorem short_first {first : Value} (short : v.IsShort) (taken : first? v = some first) : first.IsShort := by
  unfold first? at taken
  split at taken
  · next head rest =>
      cases taken
      exact short.partOf (IsShort.list_iff.1 short head List.mem_cons_self)
  · next s =>
      obtain ⟨c, -, rfl⟩ := Option.map_eq_some_iff.1 taken
      rfl
  · cases taken
    exact (IsShort.pair_iff.1 short).1
  · cases taken
    exact short_byte _
  · next entries =>
      obtain ⟨entry, found, rfl⟩ := Option.map_eq_some_iff.1 taken
      exact short.partOf (IsShort.map_iff.1 short entry (List.mem_of_find?_eq_some found)).2
  · cases taken

/-! Reading fields. -/

theorem decides_shown (short : v.IsShort) : Decides v.shown True := by
  rw [short.shown]
  exact .ok trivial _

theorem decides_displayed (short : v.IsShort) : Decides (displayed? v) True := by
  unfold displayed?
  split
  · exact .ok trivial _
  · exact (decides_shown short).map _

theorem decides_tagOf (short : v.IsShort) (opens : v.isTruthy = true → (first? v).isSome = true) :
    Decides (tagOf v) True := by
  unfold tagOf
  split
  · next truthy =>
      obtain ⟨first, taken⟩ := Option.isSome_iff_exists.1 (opens truthy)
      rw [taken]
      exact decides_shown (short_first short taken)
  · exact .ok trivial _

theorem short_membersOf (short : v.IsShort) : ∀ m ∈ membersOf v, m.IsShort := by
  unfold membersOf
  cases taken : members? v with
  | none => exact fun _ nothing => by cases nothing
  | some members => exact short_members short taken

theorem listed_of_opens (opens : v.isTruthy = true → (members? v).isSome = true) : listed v = .ok (membersOf v) := by
  unfold listed
  split
  · next truthy =>
      obtain ⟨members, taken⟩ := Option.isSome_iff_exists.1 (opens truthy)
      rw [membersOf, taken]
      rfl
  · next falsy => rw [membersOf_of_not_truthy (Bool.eq_false_iff.2 falsy)]

/-- Whether a schema can enter a model: if it is a mapping, its keys can be names. -/
def IsKeyed : Value → Prop
  | .map entries => ∀ e ∈ entries, (schemaKey? e.1).isSome = true
  | _ => True

theorem decides_schemaOf (part : ModelPart) (v : Value) : Decides (schemaOf part v) (IsKeyed v) := by
  cases v with
  | map entries =>
      have keyed : (entries.filter fun e => (schemaKey? e.1).isNone).isEmpty = true ↔ IsKeyed (.map entries) := by
        rw [List.isEmpty_iff, List.filter_eq_nil_iff, IsKeyed]
        exact forall₂_congr fun e _ => by rw [Bool.not_eq_true, Option.isNone_eq_false_iff]
      unfold schemaOf
      dsimp only
      split
      · next none => exact .ok (keyed.1 none) _
      · next some => exact .spec (mt keyed.2 some) _
  | _ => exact .ok trivial _

theorem short_firstType {types : List Value} (short : ∀ t ∈ types, t.IsShort) : (Shape.firstType types).IsShort := by
  unfold Shape.firstType
  cases found : types.find? _ with
  | none => rfl
  | some t => exact short t (List.mem_of_find?_eq_some found)

theorem short_lookup (short : (Value.map entries).IsShort) (name : String) :
    ((Value.lookup name entries).getD .null).IsShort := by
  cases found : Value.lookup name entries with
  | none => rfl
  | some part => exact short.lookup found

theorem decides_parameterShape (short : v.IsShort) : Decides (parameterShape v) True := by
  unfold parameterShape
  apply Decides.map
  unfold Shape.ofSchema
  split
  · next entries =>
      have typed := short_lookup short "type"
      split
      · next types isList =>
          rw [isList] at typed
          exact (decides_shown (short_firstType (IsShort.list_iff.1 typed))).map _
      · exact (decides_shown typed).map _
  · exact .ok trivial _

theorem decides_parameterOf (short : v.IsShort) (location : Location) :
    Decides (parameterOf v location) (IsKeyed (field v "schema")) := by
  have schema := short_field short "schema"
  apply (decides_shown (short_field short "name")).after
  intro name
  apply (decides_parameterShape schema).after
  intro shape
  apply (decides_displayed (short_field schema "format")).after
  intro format
  exact (decides_schemaOf _ _).bind_pure _

theorem decides_parametersOf (shorts : ∀ m ∈ members, m.IsShort) :
    Decides (parametersOf members) (∀ m ∈ members.filter isParameter, IsKeyed (field m "schema")) := by
  induction members with
  | nil => exact .ok (fun _ nothing => by cases nothing) _
  | cons first rest ih =>
      obtain ⟨short, shortRest⟩ := List.forall_mem_cons.1 shorts
      have skips (isNone : isParameter first = false) (same : parametersOf (first :: rest) = parametersOf rest) :
          Decides (parametersOf (first :: rest))
            (∀ m ∈ (first :: rest).filter isParameter, IsKeyed (field m "schema")) := by
        rw [same, List.filter_cons_of_neg (by rw [isNone]; decide)]
        exact ih shortRest
      cases first with
      | map entries =>
          cases sent : locationOf? entries with
          | none => exact skips (by rw [isParameter_eq, sent]; rfl) (by rw [parametersOf, sent])
          | some location =>
              rw [parametersOf, sent, List.filter_cons_of_pos (by rw [isParameter_eq, sent]; rfl)]
              rw [List.forall_mem_cons]
              exact (decides_parameterOf short location).bind fun p => (ih shortRest).bind_pure _
      | _ => exact skips rfl rfl

/-! Bodies and responses. -/

/-- The first entry of a content mapping: its type, and the schema under it. -/
def firstMedia? (content : Value) : Option (Value × Value) :=
  match content with
  | .map ((key, media) :: _) => some (key, field (content.partOf media) "schema")
  | _ => none

/-- The schema of a body, which is passed over without a content type. -/
def bodySchema? (body : Value) : Option Value :=
  (firstMedia? (field body "content")).bind fun (key, schema) =>
    if key.isTruthy && !key.display.isEmpty then some schema else none

def responseSchema? (response : Value) : Option Value :=
  (firstMedia? (field response "content")).map Prod.snd

/-- The schemas under responses, as far as these are mappings. -/
def responseSchemas (entries : List (Value × Value)) : List Value :=
  (entries.filter fun e => e.2.isMap).flatMap fun e => (responseSchema? e.2).toList

/-- The schemas that enter a model with an operation: of its parameters, its body and its responses. -/
def Declaration.schemas (d : Declaration) : List Value :=
  d.parameters.map (field · "schema") ++ ((bodySchema? (field d.operation "requestBody")).toList ++
    responseSchemas (entriesOf (field d.operation "responses")))

theorem firstContent_of_short (short : v.IsShort) : firstContent v = .ok
    (match firstMedia? v with
      | some (key, schema) => (if key.isTruthy then some key.display else none, schema)
      | none => (none, .null)) := by
  cases v with
  | map entries =>
      cases entries with
      | nil => rfl
      | cons first rest =>
          have shown := (IsShort.map_iff.1 short first List.mem_cons_self).1.shown
          rw [firstContent, firstMedia?, shown]
          dsimp only
          split <;> rfl
  | _ => rfl

theorem decides_bodyOf (short : v.IsShort) :
    Decides (bodyOf v) (∀ schema ∈ (bodySchema? v).toList, IsKeyed schema) := by
  rw [bodyOf, bodySchema?, firstContent_of_short (short_field short "content")]
  cases firstMedia? (field v "content") with
  | none => exact .ok (fun _ nothing => by cases nothing) _
  | some media =>
      obtain ⟨key, schema⟩ := media
      rw [Option.bind_some]
      dsimp only
      split
      · next typed =>
          rw [typed, Bool.true_and]
          change Decides (if key.display.isEmpty then pure none else _) _
          split
          · next empty =>
              rw [empty]
              exact .ok (fun _ nothing => by cases nothing) _
          · next filled =>
              rw [Bool.eq_false_iff.2 filled, Bool.not_false, if_pos rfl, Option.toList_some, List.forall_mem_singleton]
              exact (decides_schemaOf _ _).bind_pure _
      · next untyped =>
          rw [Bool.eq_false_iff.2 untyped]
          exact .ok (fun _ nothing => by cases nothing) _

theorem decides_responseOf (short : v.IsShort) (status : String) :
    Decides (responseOf status v) (∀ schema ∈ (responseSchema? v).toList, IsKeyed schema) := by
  rw [responseOf, responseSchema?, firstContent_of_short (short_field short "content")]
  cases firstMedia? (field v "content") with
  | none => exact .ok (fun _ nothing => by cases nothing) _
  | some media =>
      rw [Option.map_some, Option.toList_some, List.forall_mem_singleton]
      exact (decides_schemaOf _ _).bind_pure _

theorem decides_responsesAfter {found : List (String × Response)} (short : container.IsShort)
    (shorts : ∀ e ∈ entries, e.1.IsShort ∧ e.2.IsShort) : Decides (responsesAfter container found entries)
      (∀ schema ∈ (mapsIn container entries).flatMap fun e => (responseSchema? e.2).toList, IsKeyed schema) := by
  induction entries generalizing found with
  | nil => exact .ok (fun _ nothing => by cases nothing) _
  | cons first rest ih =>
      obtain ⟨status, declared⟩ := first
      obtain ⟨⟨statusShort, declaredShort⟩, shortRest⟩ := List.forall_mem_cons.1 shorts
      have partShort := short.partOf declaredShort
      rw [responsesAfter]
      cases isResponse : container.partOf declared with
      | map fields =>
          rw [isResponse] at partShort
          rw [mapsIn_cons_of_map isResponse, List.flatMap_cons, List.forall_mem_append, statusShort.shown]
          exact (decides_responseOf partShort status.display).bind fun r => ih shortRest
      | _ =>
          rw [mapsIn_cons_of_not_map (by rw [isResponse]; rfl)]
          exact ih shortRest

theorem decides_responsesOf (short : v.IsShort) :
    Decides (responsesOf v) (∀ schema ∈ responseSchemas (entriesOf v), IsKeyed schema) := by
  cases v with
  | map entries => exact decides_responsesAfter short (IsShort.map_iff.1 short)
  | _ => exact .ok (fun _ nothing => by cases nothing) _

/-! Operations. -/

theorem decides_idOf (short : v.IsShort) (method : Method) (path : String) : Decides (idOf v method path) True := by
  unfold idOf
  split
  · exact (decides_shown short).map _
  · exact .ok trivial _

theorem Declaration.decides_read {d : Declaration} (short : d.item.IsShort) (opens : d.IsOpen) :
    Decides d.read (∀ schema ∈ d.schemas, IsKeyed schema) := by
  have declared := short_field short d.method.text
  have shorts := List.forall_mem_append.2
    ⟨short_membersOf (short_field short "parameters"), short_membersOf (short_field declared "parameters")⟩
  unfold read operationOf
  rw [listed_of_opens opens.shared, listed_of_opens opens.own]
  apply (decides_tagOf (short_field declared "tags") opens.tags).after
  intro tag
  apply (decides_idOf (short_field declared "operationId") d.method d.path).after
  intro id
  apply (decides_displayed (short_field declared "summary")).after
  intro summary
  apply (decides_displayed (short_field declared "description")).after
  intro description
  rw [schemas, List.forall_mem_append, List.forall_mem_append, List.forall_mem_map]
  apply (decides_parametersOf shorts).bind
  intro parameters
  apply (decides_bodyOf (short_field declared "requestBody")).bind
  intro body
  exact (decides_responsesOf (short_field declared "responses")).bind_pure _

theorem decides_operationsOfPath {path : Value} {methods : List Method} (pathShort : path.IsShort)
    (short : item.IsShort) (opens : ∀ d ∈ declarationsOf path.display item methods, d.IsOpen) :
    Decides (operationsOfPath path item methods)
      (∀ d ∈ declarationsOf path.display item methods, ∀ schema ∈ d.schemas, IsKeyed schema) := by
  induction methods with
  | nil => exact .ok (fun _ nothing => by cases nothing) _
  | cons method rest ih =>
      rw [operationsOfPath]
      cases declared : field item method.text with
      | map fields =>
          rw [declarationsOf_cons_of_map declared, List.forall_mem_cons] at opens ⊢
          have own := Declaration.decides_read short opens.1
          rw [Declaration.read, Declaration.operation, declared] at own
          rw [pathShort.shown]
          exact own.bind fun op => (ih opens.2).bind_pure _
      | _ =>
          rw [declarationsOf_cons_of_not_map (by rw [declared]; rfl)] at opens ⊢
          exact ih opens

theorem decides_operationsOfPaths (short : container.IsShort) (shorts : ∀ e ∈ entries, e.1.IsShort ∧ e.2.IsShort)
    (opens : ∀ d ∈ (mapsIn container entries).flatMap
      (fun entry => declarationsOf entry.1.display entry.2 Method.all), d.IsOpen) :
    Decides (operationsOfPaths container entries)
      (∀ d ∈ (mapsIn container entries).flatMap
        (fun entry => declarationsOf entry.1.display entry.2 Method.all), ∀ schema ∈ d.schemas, IsKeyed schema) := by
  induction entries with
  | nil => exact .ok (fun _ nothing => by cases nothing) _
  | cons first rest ih =>
      obtain ⟨path, declared⟩ := first
      obtain ⟨⟨pathShort, declaredShort⟩, shortRest⟩ := List.forall_mem_cons.1 shorts
      have partShort := short.partOf declaredShort
      rw [operationsOfPaths]
      cases isItem : container.partOf declared with
      | map fields =>
          rw [isItem] at partShort
          rw [mapsIn_cons_of_map isItem, List.flatMap_cons, List.forall_mem_append] at opens ⊢
          exact (decides_operationsOfPath pathShort partShort opens.1).bind fun here =>
            (ih shortRest opens.2).bind_pure _
      | _ =>
          rw [mapsIn_cons_of_not_map (by rw [isItem]; rfl)] at opens ⊢
          exact ih shortRest opens

/-- Whether a description is fit for a model: its paths, if any, are a mapping, and its schemas can enter a model. -/
structure IsFit (bundled : Value) : Prop where
  paths : (field bundled "paths").isTruthy = true → (field bundled "paths").isMap = true
  schemas : ∀ d ∈ declarations bundled, ∀ schema ∈ d.schemas, IsKeyed schema

theorem decides_operationsOf {bundled : Value} (short : bundled.IsShort)
    (opens : ∀ d ∈ declarations bundled, d.IsOpen) :
    Decides (operationsOf (field bundled "paths")) (IsFit bundled) := by
  have pathsShort := short_field short "paths"
  unfold operationsOf
  split
  · next falsy =>
      have absent : (field bundled "paths").isTruthy = false := by simpa using falsy
      refine .ok ⟨fun truthy => ?_, ?_⟩ _
      · rw [absent] at truthy
        cases truthy
      · rw [declarations, pathItems, entriesOf_of_not_truthy absent]
        exact fun _ nothing => by cases nothing
  · next truthy =>
      split
      · next entries isPaths =>
          rw [isPaths] at pathsShort
          have all : declarations bundled = ((entriesOf (.map entries)).filter fun entry => entry.2.isMap).flatMap
              (fun entry => declarationsOf entry.1.display entry.2 Method.all) := by
            rw [declarations, pathItems, isPaths]
          rw [all] at opens
          have below := decides_operationsOfPaths pathsShort (IsShort.map_iff.1 pathsShort) opens
          rw [isPaths]
          exact below.congr ⟨fun keyed => ⟨fun _ => isPaths ▸ rfl, all ▸ keyed⟩, fun fit => all ▸ fit.schemas⟩
      · next noMap =>
          refine .spec (fun fit => ?_) _
          obtain ⟨entries, isPaths⟩ := exists_of_isMap (fit.paths (by simpa using truthy))
          exact noMap entries isPaths

/-- A description in which all that is taken apart can be has a model exactly if it is fit for one. -/
theorem Model.decides_ofBundled {bundled : Value} (isMap : bundled.isMap = true) (short : bundled.IsShort)
    (opens : ∀ d ∈ declarations bundled, d.IsOpen) : Decides (ofBundled bundled) (IsFit bundled) := by
  have info := short_field short "info"
  obtain ⟨entries, rfl⟩ := exists_of_isMap isMap
  refine ((decides_operationsOf short opens).bind fun operations => ?_).congr (Iff.of_eq (and_true _))
  apply (decides_displayed (short_field info "title")).after
  intro title
  exact (decides_displayed (short_field info "version")).bind_pure _

theorem Model.reported_ofBundled {bundled : Value} (isMap : bundled.isMap = true) (short : bundled.IsShort)
    (opens : ∀ d ∈ declarations bundled, d.IsOpen) : Reported (ofBundled bundled) :=
  (decides_ofBundled isMap short opens).reported

/-! What has a model can be taken apart. -/

theorem first_of_tagOf {tag : String} (done : tagOf v = .ok tag) (truthy : v.isTruthy = true) :
    (first? v).isSome = true := by
  rw [tagOf, if_pos truthy] at done
  cases taken : first? v with
  | none =>
      rw [taken] at done
      cases done
  | some first => rfl

theorem members_of_listed (done : listed v = .ok members) (truthy : v.isTruthy = true) :
    (members? v).isSome = true := by
  rw [listed, if_pos truthy] at done
  cases taken : members? v with
  | none =>
      rw [taken] at done
      cases done
  | some members => rfl

theorem Declaration.opens_of_read {d : Declaration} {op : Operation} (done : d.read = .ok op) : d.IsOpen := by
  have steps := steps_of_read done
  obtain ⟨shared, own, isShared, isOwn, -⟩ := steps.parameters
  exact ⟨first_of_tagOf steps.tag, members_of_listed isShared, members_of_listed isOwn⟩

/-- No description has a model but a mapping in which all that is taken apart can be. -/
theorem Model.opens_of_ofBundled {bundled : Value} {model : Model} (done : ofBundled bundled = .ok model) :
    bundled.isMap = true ∧ ∀ d ∈ declarations bundled, d.IsOpen := by
  constructor
  · unfold ofBundled at done
    split at done
    · rfl
    · cases done
  · have reads := (operationsOf_ok (operations_of_ofBundled done)).2
    have opened := reads.flip.imp fun d op read => And.intro (Declaration.opens_of_read read) read
    exact ((List.forall₂_and_left _ _).1 opened).1

end QueryHooks.Api
