import Mathlib.Data.List.Forall2
import Mathlib.Data.List.Nodup
import QueryHooks.Proofs.Api.MovedOut
import QueryHooks.Proofs.Failure

/-!
The operations of a model are the ones that its description declares, one for each method of each path, in the
order of the description. Each has the parameters of its path and then its own.
-/

namespace QueryHooks.Api

variable {path item v : Value} {op : Operation} {ops : List Operation}

/-! What a description declares. -/

/-- The entries of a mapping, each as a value of its own. -/
def entriesOf : Value → List (Value × Value)
  | .map entries => entries.map fun (key, v) => (key, (Value.map entries).partOf v)
  | _ => []

def membersOf (v : Value) : List Value := (members? v).getD []

def pathItems (bundled : Value) : List (Value × Value) :=
  (entriesOf (field bundled "paths")).filter fun entry => entry.2.isMap

structure Declaration where
  path : String
  item : Value
  method : Method

def Declaration.operation (d : Declaration) : Value := field d.item d.method.text

/-- What is read of a declared operation. -/
def Declaration.read (d : Declaration) : Except Failure Operation :=
  operationOf d.path (field d.item "parameters") d.method d.operation

/-- The methods of a path, as far as they are declared as mappings. -/
def declarationsOf (path : String) (item : Value) (methods : List Method) : List Declaration :=
  (methods.filter fun method => (field item method.text).isMap).map fun method => ⟨path, item, method⟩

def declarations (bundled : Value) : List Declaration :=
  (pathItems bundled).flatMap fun entry => declarationsOf entry.1.display entry.2 Method.all

def Location.all : List Location := [.path, .query, .header, .cookie]

/-- Whether an entry of a parameter list is a parameter: a mapping with a name and no place, or a known one. -/
def isParameter : Value → Bool
  | .map entries => (Value.lookup "name" entries).isSome &&
      match Value.lookup "in" entries with
      | none => true
      | some (.text place) => Location.all.any (·.text == place)
      | some _ => false
  | _ => false

/-- The parameters that are declared for an operation: those of its path first. -/
def Declaration.parameters (d : Declaration) : List Value :=
  (membersOf (field d.item "parameters") ++ membersOf (field d.operation "parameters")).filter isParameter

structure Parameter.IsReadFrom (p : Parameter) (entry : Value) : Prop where
  name : p.name = (field entry "name").display
  location : entry.get? "in" = some (.text p.location.text) ∨ entry.get? "in" = none ∧ p.location = .query
  required : p.required = (field entry "required").isTruthy

structure Operation.IsReadFrom (op : Operation) (d : Declaration) : Prop where
  path : op.path = d.path
  method : op.method = d.method
  parameters : List.Forall₂ Parameter.IsReadFrom op.parameters d.parameters

/-- Whether each parameter is seen in the one of the four views that it is sent to, in order. -/
structure Operation.IsSplit (op : Operation) : Prop where
  ordered : ∀ location, (op.parametersIn location).Sublist op.parameters
  whole : (Location.all.flatMap op.parametersIn).Perm op.parameters
  unique : ∀ p ∈ op.parameters, ∃! location, p ∈ op.parametersIn location

/-! Parameters. -/

theorem Location.ofText_text (location : Location) : Location.ofText? location.text = some location := by
  cases location <;> rfl

theorem Location.text_of_ofText {text : String} {location : Location} (known : Location.ofText? text = some location) :
    text = location.text := by
  unfold Location.ofText? at known
  split at known <;> cases known <;> rfl

theorem Location.mem_all (location : Location) : location ∈ Location.all := by
  cases location <;> decide

theorem Location.any_all_iff {text : String} :
    (Location.all.any (·.text == text)) = (Location.ofText? text).isSome := by
  rw [Bool.eq_iff_iff, List.any_eq_true, Option.isSome_iff_exists]
  constructor
  · rintro ⟨location, -, same⟩
    exact ⟨location, eq_of_beq same ▸ location.ofText_text⟩
  · rintro ⟨location, known⟩
    exact ⟨location, location.mem_all, beq_iff_eq.2 (text_of_ofText known).symm⟩

theorem isParameter_eq (entries : List (Value × Value)) :
    isParameter (.map entries) = (locationOf? entries).isSome := by
  simp only [isParameter, locationOf?]
  cases Value.lookup "name" entries with
  | none => rfl
  | some name =>
      cases Value.lookup "in" entries with
      | none => rfl
      | some place =>
          cases place with
          | text text => exact Location.any_all_iff
          | _ => rfl

theorem shown_ok {text : String} (shown : v.shown = .ok text) : text = v.display := by
  unfold Value.shown at shown
  split at shown
  · cases shown
  · exact (Except.ok.inj shown).symm

theorem parameterOf_ok {entries : List (Value × Value)} {location : Location} {p : Parameter}
    (sent : locationOf? entries = some location) (done : parameterOf (.map entries) location = .ok p) :
    p.IsReadFrom (.map entries) := by
  obtain ⟨name, shown, done⟩ := exists_of_bind done
  obtain ⟨shape, -, done⟩ := exists_of_bind done
  obtain ⟨format, -, done⟩ := exists_of_bind done
  obtain ⟨schema, -, done⟩ := exists_of_bind done
  cases done
  refine ⟨shown_ok shown, ?_, rfl⟩
  unfold locationOf? at sent
  split at sent
  · cases sent
  · split at sent
    · next nowhere => exact .inr ⟨nowhere, (Option.some.inj sent).symm⟩
    · next place named => exact .inl (Location.text_of_ofText sent ▸ named)
    · cases sent

theorem parametersOf_ok {entries : List Value} {params : List Parameter} (done : parametersOf entries = .ok params) :
    List.Forall₂ Parameter.IsReadFrom params (entries.filter isParameter) := by
  induction entries generalizing params with
  | nil =>
      cases done
      exact .nil
  | cons entry rest ih =>
      cases entry with
      | map entries =>
          rw [parametersOf] at done
          cases sent : locationOf? entries with
          | none =>
              have skipped : isParameter (.map entries) ≠ true := by
                rw [isParameter_eq, sent]
                decide
              rw [sent] at done
              rw [List.filter_cons_of_neg skipped]
              exact ih done
          | some location =>
              have taken : isParameter (.map entries) = true := by
                rw [isParameter_eq, sent]
                rfl
              rw [sent] at done
              obtain ⟨p, isRead, done⟩ := exists_of_bind done
              obtain ⟨others, below, done⟩ := exists_of_bind done
              cases done
              rw [List.filter_cons_of_pos taken]
              exact .cons (parameterOf_ok sent isRead) (ih below)
      | _ =>
          rw [List.filter_cons_of_neg Bool.false_ne_true]
          exact ih done

theorem membersOf_of_not_truthy (falsy : v.isTruthy = false) : membersOf v = [] := by
  cases v with
  | list items =>
      cases items with
      | nil => rfl
      | cons => cases falsy
  | map entries =>
      cases entries with
      | nil => rfl
      | cons => cases falsy
  | set members =>
      cases members with
      | nil => rfl
      | cons => cases falsy
  | bytes octets =>
      cases octets with
      | nil => rfl
      | cons => cases falsy
  | text s =>
      have empty : s = "" := by simpa [Value.isTruthy] using falsy
      rw [empty]
      rfl
  | pair first second => cases falsy
  | _ => rfl

theorem listed_ok {members : List Value} (done : listed v = .ok members) : members = membersOf v := by
  unfold listed at done
  split at done
  · split at done
    · next members some =>
        rw [membersOf, some]
        exact (Except.ok.inj done).symm
    · cases done
  · next falsy =>
      cases done
      exact (membersOf_of_not_truthy (Bool.eq_false_iff.2 falsy)).symm

/-! Operations. -/

/-- The steps of reading a declared operation, each with the field that it gives. -/
structure Declaration.Steps (d : Declaration) (op : Operation) : Prop where
  path : op.path = d.path
  method : op.method = d.method
  tag : tagOf (field d.operation "tags") = .ok op.tag
  id : idOf (field d.operation "operationId") d.method d.path = .ok op.id
  summary : displayed? (field d.operation "summary") = .ok op.summary
  description : displayed? (field d.operation "description") = .ok op.description
  parameters : ∃ shared own, listed (field d.item "parameters") = .ok shared ∧
    listed (field d.operation "parameters") = .ok own ∧ parametersOf (shared ++ own) = .ok op.parameters
  body : bodyOf (field d.operation "requestBody") = .ok op.body
  responses : responsesOf (field d.operation "responses") = .ok op.responses

theorem Declaration.steps_of_read {d : Declaration} (done : d.read = .ok op) : d.Steps op := by
  obtain ⟨tag, isTag, done⟩ := exists_of_bind done
  obtain ⟨shared, isShared, done⟩ := exists_of_bind done
  obtain ⟨own, isOwn, done⟩ := exists_of_bind done
  obtain ⟨id, isId, done⟩ := exists_of_bind done
  obtain ⟨summary, isSummary, done⟩ := exists_of_bind done
  obtain ⟨description, isDescription, done⟩ := exists_of_bind done
  obtain ⟨parameters, areParameters, done⟩ := exists_of_bind done
  obtain ⟨body, isBody, done⟩ := exists_of_bind done
  obtain ⟨responses, areResponses, done⟩ := exists_of_bind done
  cases done
  exact ⟨rfl, rfl, isTag, isId, isSummary, isDescription, ⟨shared, own, isShared, isOwn, areParameters⟩, isBody,
    areResponses⟩

theorem Declaration.read_ok {d : Declaration} (done : d.read = .ok op) : op.IsReadFrom d := by
  have steps := steps_of_read done
  obtain ⟨shared, own, isShared, isOwn, read⟩ := steps.parameters
  refine ⟨steps.path, steps.method, ?_⟩
  rw [Declaration.parameters, ← listed_ok isShared, ← listed_ok isOwn]
  exact parametersOf_ok read

theorem declarationsOf_cons_of_map {path : String} {method : Method} {methods : List Method}
    {fields : List (Value × Value)} (declared : field item method.text = .map fields) :
    declarationsOf path item (method :: methods) = ⟨path, item, method⟩ :: declarationsOf path item methods := by
  rw [declarationsOf, List.filter_cons_of_pos (by rw [declared]; rfl), List.map_cons]
  rfl

theorem declarationsOf_cons_of_not_map {path : String} {method : Method} {methods : List Method}
    (undeclared : (field item method.text).isMap = false) :
    declarationsOf path item (method :: methods) = declarationsOf path item methods := by
  rw [declarationsOf, List.filter_cons_of_neg (by rw [undeclared]; exact Bool.false_ne_true)]
  rfl

theorem operationsOfPath_ok {methods : List Method} (done : operationsOfPath path item methods = .ok ops) :
    List.Forall₂ (fun op d => d.read = .ok op) ops (declarationsOf path.display item methods) ∧
      operationsOfPath (.text path.display) item methods = .ok ops := by
  induction methods generalizing ops with
  | nil =>
      cases done
      exact ⟨.nil, rfl⟩
  | cons method rest ih =>
      rw [operationsOfPath] at done ⊢
      cases declared : field item method.text with
      | map fields =>
          rw [declared] at done
          obtain ⟨text, shown, done⟩ := exists_of_bind done
          obtain ⟨first, isFirst, done⟩ := exists_of_bind done
          obtain ⟨others, below, done⟩ := exists_of_bind done
          cases done
          cases shown_ok shown
          obtain ⟨all, again⟩ := ih below
          constructor
          · rw [declarationsOf_cons_of_map declared]
            refine .cons ?_ all
            rwa [Declaration.read, Declaration.operation, declared]
          · rw [again]
            exact congrArg (fun read => read >>= fun op => pure (op :: others)) isFirst
      | _ =>
          rw [declared] at done
          rw [declarationsOf_cons_of_not_map (by rw [declared]; rfl)]
          exact ih done

/-- The operations of a path, as its text and its item tell. -/
def operationsAt (path : String) (item : Value) : List Operation :=
  match operationsOfPath (.text path) item Method.all with
  | .ok ops => ops
  | .error _ => []

/-- The entries that are mappings, each as a value of its own. -/
def mapsIn (container : Value) (entries : List (Value × Value)) : List (Value × Value) :=
  (entries.map fun (key, v) => (key, container.partOf v)).filter fun entry => entry.2.isMap

section

variable {container key declared : Value} {entries : List (Value × Value)}

theorem mapsIn_cons_of_map {fields : List (Value × Value)} (isMap : container.partOf declared = .map fields) :
    mapsIn container ((key, declared) :: entries) = (key, .map fields) :: mapsIn container entries := by
  rw [mapsIn, List.map_cons]
  dsimp only
  rw [isMap, List.filter_cons_of_pos (by rfl)]
  rfl

theorem mapsIn_cons_of_not_map (noMap : (container.partOf declared).isMap = false) :
    mapsIn container ((key, declared) :: entries) = mapsIn container entries := by
  rw [mapsIn, List.map_cons, List.filter_cons_of_neg (by rw [noMap]; exact Bool.false_ne_true)]
  rfl

end

theorem operationsOfPaths_ok {container : Value} {entries : List (Value × Value)}
    (done : operationsOfPaths container entries = .ok ops) :
    ops = (mapsIn container entries).flatMap (fun entry => operationsAt entry.1.display entry.2) ∧
      List.Forall₂ (fun op d => d.read = .ok op) ops
        ((mapsIn container entries).flatMap fun entry => declarationsOf entry.1.display entry.2 Method.all) := by
  induction entries generalizing ops with
  | nil =>
      cases done
      exact ⟨rfl, .nil⟩
  | cons first rest ih =>
      obtain ⟨path, declared⟩ := first
      rw [operationsOfPaths] at done
      cases isItem : container.partOf declared with
      | map fields =>
          rw [isItem] at done
          obtain ⟨here, isHere, done⟩ := exists_of_bind done
          obtain ⟨others, below, done⟩ := exists_of_bind done
          cases done
          obtain ⟨read, again⟩ := operationsOfPath_ok isHere
          obtain ⟨same, all⟩ := ih below
          rw [mapsIn_cons_of_map isItem, List.flatMap_cons, List.flatMap_cons, operationsAt, again]
          exact ⟨congrArg (here ++ ·) same, List.rel_append read all⟩
      | _ =>
          rw [isItem] at done
          rw [mapsIn_cons_of_not_map (by rw [isItem]; rfl)]
          exact ih done

theorem entriesOf_of_not_truthy (falsy : v.isTruthy = false) : entriesOf v = [] := by
  cases v with
  | map entries =>
      cases entries with
      | nil => rfl
      | cons => cases falsy
  | _ => rfl

theorem operationsOf_ok {bundled : Value} (done : operationsOf (field bundled "paths") = .ok ops) :
    ops = (pathItems bundled).flatMap (fun entry => operationsAt entry.1.display entry.2) ∧
      List.Forall₂ (fun op d => d.read = .ok op) ops (declarations bundled) := by
  unfold operationsOf at done
  rw [declarations, pathItems]
  split at done
  · next falsy =>
      cases done
      rw [entriesOf_of_not_truthy (by simpa using falsy)]
      exact ⟨rfl, .nil⟩
  · split at done
    · next entries isPaths =>
        rw [isPaths] at done ⊢
        exact operationsOfPaths_ok done
    · cases done

/-! Views of the parameters. -/

theorem Operation.mem_parametersIn {p : Parameter} {location : Location} :
    p ∈ op.parametersIn location ↔ p ∈ op.parameters ∧ p.location = location := by
  rw [parametersIn, List.mem_filter, beq_iff_eq]

theorem views_perm (params : List Parameter) :
    (Location.all.flatMap fun location => params.filter (·.location == location)).Perm params := by
  induction params with
  | nil => exact .refl []
  | cons p rest ih =>
      refine List.Perm.trans ?_ (ih.cons p)
      have pastFront {views views' : List Parameter} (front : List Parameter) (here : views.Perm (p :: views')) :
          (front ++ views).Perm (p :: (front ++ views')) := (here.append_left front).trans List.perm_middle
      simp only [Location.all, List.flatMap_cons, List.flatMap_nil, List.append_nil]
      cases sent : p.location with
      | path =>
          simp only [List.filter_cons, sent, beq_self_eq_true, if_true, reduceCtorEq, beq_iff_eq, if_false]
          exact .refl _
      | query =>
          simp only [List.filter_cons, sent, beq_self_eq_true, if_true, reduceCtorEq, beq_iff_eq, if_false]
          exact pastFront _ (.refl _)
      | header =>
          simp only [List.filter_cons, sent, beq_self_eq_true, if_true, reduceCtorEq, beq_iff_eq, if_false]
          exact pastFront _ (pastFront _ (.refl _))
      | cookie =>
          simp only [List.filter_cons, sent, beq_self_eq_true, if_true, reduceCtorEq, beq_iff_eq, if_false]
          exact pastFront _ (pastFront _ (pastFront _ (.refl _)))

theorem Operation.isSplit (op : Operation) : op.IsSplit where
  ordered := fun location => List.filter_sublist
  whole := views_perm op.parameters
  unique := by
    intro p inside
    refine ⟨p.location, mem_parametersIn.2 ⟨inside, rfl⟩, fun location seen => ?_⟩
    exact (mem_parametersIn.1 seen).2.symm

/-! The whole model. -/

def Operation.pair (op : Operation) : String × Method := (op.path, op.method)

def Declaration.pair (d : Declaration) : String × Method := (d.path, d.method)

/-- Whether a model has the operations that a bundled description declares, and no others. -/
structure Model.IsReadFrom (model : Model) (bundled : Value) : Prop where
  pairs : model.operations.map Operation.pair = (declarations bundled).map Declaration.pair
  once : ((pathItems bundled).map (·.1.display)).Nodup → (model.operations.map Operation.pair).Nodup
  operations : List.Forall₂ Operation.IsReadFrom model.operations (declarations bundled)
  /-- What is read at a path depends on its text and its item alone. -/
  apart : model.operations = (pathItems bundled).flatMap fun entry => operationsAt entry.1.display entry.2
  split : ∀ op ∈ model.operations, op.IsSplit

theorem pairs_of_read {declared : List Declaration} (read : List.Forall₂ Operation.IsReadFrom ops declared) :
    ops.map Operation.pair = declared.map Declaration.pair := by
  induction read with
  | nil => rfl
  | cons first _ ih => rw [List.map_cons, List.map_cons, ih, Operation.pair, first.path, first.method, Declaration.pair]

theorem names_of_read {params : List Parameter} {entries : List Value}
    (read : List.Forall₂ Parameter.IsReadFrom params entries) :
    params.map (·.name) = entries.map fun entry => (field entry "name").display := by
  induction read with
  | nil => rfl
  | cons first _ ih => rw [List.map_cons, List.map_cons, ih, first.name]

theorem parameterNames_of_read {declared : List Declaration}
    (read : List.Forall₂ Operation.IsReadFrom ops declared) :
    ops.map (·.parameters.map (·.name)) =
      declared.map fun d => d.parameters.map fun entry => (field entry "name").display := by
  induction read with
  | nil => rfl
  | cons first _ ih => rw [List.map_cons, List.map_cons, ih, names_of_read first.parameters]

theorem pairs_nodup {items : List (Value × Value)} (distinct : (items.map (·.1.display)).Nodup) :
    ((items.flatMap fun entry => declarationsOf entry.1.display entry.2 Method.all).map Declaration.pair).Nodup := by
  rw [List.map_flatMap, List.nodup_flatMap]
  constructor
  · intro entry _
    rw [declarationsOf, List.map_map]
    have methods : Method.all.Nodup := by decide
    exact (methods.filter _).map fun method method' same => (Prod.mk.inj same).2
  · refine (List.pairwise_map.1 distinct).imp fun {entry entry'} apart => ?_
    intro pair here there
    obtain ⟨d, inside, rfl⟩ := List.mem_map.1 here
    obtain ⟨d', inside', same⟩ := List.mem_map.1 there
    obtain ⟨method, -, rfl⟩ := List.mem_map.1 inside
    obtain ⟨method', -, rfl⟩ := List.mem_map.1 inside'
    exact apart (Prod.mk.inj same).1.symm

theorem Model.operations_of_ofBundled {bundled : Value} {model : Model}
    (done : Model.ofBundled bundled = .ok model) : operationsOf (field bundled "paths") = .ok model.operations := by
  unfold Model.ofBundled at done
  split at done
  · obtain ⟨operations, read, done⟩ := exists_of_bind done
    obtain ⟨title, -, done⟩ := exists_of_bind done
    obtain ⟨version, -, done⟩ := exists_of_bind done
    cases done
    exact read
  · cases done

theorem Model.ofBundled_ok {bundled : Value} {model : Model} (done : Model.ofBundled bundled = .ok model) :
    model.IsReadFrom bundled := by
  obtain ⟨apart, reads⟩ := operationsOf_ok (operations_of_ofBundled done)
  have all := reads.imp fun _ _ read => Declaration.read_ok read
  have pairs := pairs_of_read all
  refine ⟨pairs, fun distinct => ?_, all, apart, fun op _ => op.isSplit⟩
  rw [pairs]
  exact pairs_nodup distinct

/--
The model of a document has the operations that the bundled document declares: for each path in order and each method
in order, where both are mappings, one operation with the parameters that are declared for it.
-/
theorem Model.extractIn_declares (library : Library) (workdir : Place) (document : Value) (source : Option String)
    (model : Model) (done : extractIn library workdir document source = .ok model) :
    ∃ bundled, bundleIn library workdir document source = .ok bundled ∧ model.IsReadFrom bundled := by
  obtain ⟨bundled, isBundled, isModel⟩ := exists_of_bind done
  exact ⟨bundled, isBundled, ofBundled_ok isModel⟩

private def headerKind : Value := .record [("name", .text "kind"), ("in", .text "header")]

/-- Parameters of a path and of an operation, one of them `last`, among entries that are none. -/
private def declaring (last : Value) : Value := .record [("paths", .record [
  ("/pets", .record [
    ("parameters", .list [.record [("name", .text "kind"), ("in", .text "path")], .text "none"]),
    ("delete", .record []),
    ("trace", .record []),
    ("get", .record [("parameters", .list [.record [("name", .text "limit")],
      .record [("name", .text "whole"), ("in", .text "body")], last])])]),
  ("/off", .text "none")]),
  ("kind", headerKind)]

private theorem declaring_run :
    bundleIn (.ofDocuments []) [] (declaring (Reference.value "#/kind")) (some "api.json") =
      .ok (declaring headerKind) := by
  apply bundleIn_of_resolveIn (declaring headerKind) 30 (by decide) (by decide)
  · with_unfolding_all rfl
  · with_unfolding_all rfl

theorem declaring_declares :
    ∃ model, Model.extractIn (.ofDocuments []) [] (declaring (Reference.value "#/kind")) (some "api.json") = .ok model ∧
      model.operations.map Operation.pair = [("/pets", .get), ("/pets", .delete)] ∧
      model.operations.map (·.parameters.map (·.name)) = [["kind", "limit", "kind"], ["kind"]] := by
  obtain ⟨model, isModel⟩ : ∃ model, Model.ofBundled (declaring headerKind) = .ok model := ⟨_, rfl⟩
  have done : Model.extractIn (.ofDocuments []) [] (declaring (Reference.value "#/kind")) (some "api.json") =
      .ok model := by
    unfold Model.extractIn
    rw [declaring_run]
    exact isModel
  obtain ⟨bundled, isBundled, isRead⟩ := Model.extractIn_declares _ _ _ _ _ done
  cases Except.ok.inj (declaring_run.symm.trans isBundled)
  exact ⟨model, done, isRead.pairs.trans (by with_unfolding_all rfl),
    (parameterNames_of_read isRead.operations).trans (by with_unfolding_all rfl)⟩

end QueryHooks.Api
