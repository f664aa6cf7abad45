import Mathlib.Data.List.Basic
import QueryHooks.Plan
import QueryHooks.Proofs.Request.Argument
import QueryHooks.Proofs.Request.FormData
import QueryHooks.Proofs.TypeScript.Lines

/-!
The helper that each file of hooks holds for query strings. A preview writes the same string as the
helper returns, as far as the preview can write it and the helper does not throw.
-/

namespace QueryHooks.Request

open QueryHooks.TypeScript (Code)
open QueryHooks.TypeScript.Script
open QueryHooks.TypeScript.SearchParams (Pairs scalarValues serialize serialize_eq_intercalate writeByte writePair)

namespace Serializer

def append (item : String) : Expression := .append "searchParams" (.known "key") (.string (.known item))

/-- What is done with each property of the object. -/
def body : List Statement := [
  .leaveIf (.either (.isUndefined "value") (.isNull "value")) none,
  .blank,
  .branch (.isArray "value") [.forEachDo (.of "value") (.whole "item") (append "item"), .leave none],
  .blank,
  .evaluate (append "value")]

/-- The text of the parameters behind a question mark, if there is one. -/
def result : Expression :=
  .choice (.truthy "qs") (.template ⟨['?'], by simp⟩ (.known "qs")) (.literal ⟨[], by simp⟩)

end Serializer

def serializeQuery : Function where
  name := "serializeQuery"
  parameter := "input"
  parameterType := "Record<string, unknown>"
  body := [
    .leaveIf (.falsy "input") (some (.literal ⟨[], by simp⟩)),
    .blank,
    .declare "searchParams" .newParams,
    .blank,
    .forEach (.entriesOf "input") (.pair "key" "value") Serializer.body,
    .blank,
    .declare "qs" (.toString "searchParams"),
    .leave (some Serializer.result)]

theorem code_serializeQuery : serializeQuery.code = Render.Hooks.serializer := by rfl

theorem exists_serializeQuery {groups : Api.Groups} {byTag : Bool} {extension : String} {file : PlannedFile}
    (planned : file ∈ Plan.hookFiles groups byTag extension) :
    ∃ before after, file.contents = before ++ Code.text [serializeQuery.code] ++ after := by
  have held : ∃ base body, file.contents = Code.text (Render.Hooks.preamble base ++ body) := by
    cases byTag with
    | true =>
        obtain ⟨group, -, rfl⟩ := List.mem_map.1 planned
        exact ⟨.parent, _, rfl⟩
    | false =>
        rw [List.mem_singleton.1 planned]
        exact ⟨.sibling, _, rfl⟩
  obtain ⟨base, body, text⟩ := held
  have last : Render.Hooks.preamble base = (Render.Hooks.preamble base).dropLast ++ [Render.Hooks.serializer] := rfl
  refine ⟨Code.text (Render.Hooks.preamble base).dropLast, Code.text body, ?_⟩
  rw [text, last, Code.text_append, Code.text_append, code_serializeQuery, List.dropLast_concat]

namespace Serializer

theorem textOf_toDatum (a : Argument) :
    textOf a.toDatum = if a.hidesText then throw .typeError else pure (spell a.toValue).toList := by
  funext store
  change (do return (← a.toDatum.toText store, store)) = _
  rw [a.toText_toDatum]
  split <;> rfl

/-- Whether a run only appends pairs to the search parameters, or throws. -/
def Appends (act : Run Unit) (throws : Bool) (added : Pairs) : Prop :=
  ∀ pairs, act.run [pairs] = if throws then .error .typeError else .ok ((), [pairs ++ added])

theorem Appends.forM {α : Type} {datum : α → Datum} {act : Datum → Run Unit} {throws : α → Bool}
    {added : α → Pairs} (step : ∀ a, Appends (act (datum a)) (throws a) (added a)) (items : List α) :
    Appends ((items.map datum).forM act) (items.any throws) (items.flatMap added) := by
  induction items with
  | nil =>
      intro pairs
      rw [List.any_nil, List.flatMap_nil, List.append_nil]
      rfl
  | cons a rest ih =>
      intro pairs
      change (do
        let (_, store) ← (act (datum a)).run [pairs]
        ((rest.map datum).forM act).run store) = _
      rw [step, List.any_cons, List.flatMap_cons]
      cases throws a with
      | true => rfl
      | false =>
          rw [if_neg Bool.false_ne_true, Bool.false_or, ← List.append_assoc]
          exact ih (pairs ++ added a)

theorem append_appends {scope : Scope} {key item : String} {a : Argument}
    (receiver : scope.lookup "searchParams" = some (.params 0))
    (named : scope.lookup "key" = some (.text key.toList)) (given : scope.lookup item = some a.toDatum) :
    Appends (discard ((append item).value scope)) a.hidesText [a.pair key] := by
  intro pairs
  have appended : ((append item).value scope).run [pairs] =
      if a.hidesText then .error .typeError else .ok (.undefined, [pairs ++ [a.pair key]]) := by
    simp only [append, Expression.value, readName_of_lookup receiver, readName_of_lookup named,
      readName_of_lookup given, pure_bind, textOf_toDatum]
    cases a.hidesText <;> rfl
  change (do
    let (_, store) ← ((append item).value scope).run [pairs]
    return ((), store)) = _
  rw [appended]
  cases a.hidesText <;> rfl

def entryScope (input : Datum) (key : String) (a : Argument) : Scope :=
  [("key", .text key.toList), ("value", a.toDatum), ("searchParams", .params 0), ("input", input)]

def sendItem (scope : Scope) (d : Datum) : Run Unit := do
  let bound ← (Pattern.whole "item").bind d
  discard ((append "item").value (bound ++ scope))

theorem readName_value (input : Datum) (key : String) (a : Argument) :
    readName (entryScope input key a) "value" = pure a.toDatum := rfl

theorem body_of_single (input : Datum) (key : String) {a : Argument} (filled : a.toDatum.isNull = false)
    (single : a.toDatum.isArray = false) :
    discard (runAll (entryScope input key a) body) = discard ((append "value").value (entryScope input key a)) := by
  have defined : a.toDatum.isUndefined = false := by cases a <;> rfl
  simp [body, runAll, Statement.run, Condition.holds, readName_value, filled, single, defined, discard,
    LawfulFunctor.map_const]

theorem body_of_list (input : Datum) (key : String) (items : List Argument) :
    discard (runAll (entryScope input key (.list items)) body) =
      (items.map Argument.toDatum).forM (fun d => do
        let bound ← (Pattern.whole "item").bind d
        discard ((append "item").value (bound ++ entryScope input key (.list items)))) := by
  simp [body, runAll, Statement.run, Condition.holds, readName_value, Argument.toDatum, Argument.toData_eq, resultOf,
    Datum.isUndefined, Datum.isNull, Datum.isArray, Items.list, discard, LawfulFunctor.map_const]

theorem body_appends (input : Datum) (key : String) (a : Argument) :
    Appends (discard (runAll (entryScope input key a) body)) a.hidesText (a.pairs key) := by
  have alone : Appends (discard ((append "value").value (entryScope input key a))) a.hidesText [a.pair key] :=
    append_appends rfl rfl rfl
  cases a with
  | null =>
      intro pairs
      rw [Argument.pairs, Argument.sent, List.map_nil, List.append_nil]
      rfl
  | list items =>
      have item (a : Argument) : Appends (sendItem (entryScope input key (.list items)) a.toDatum) a.hidesText
          [a.pair key] := append_appends rfl rfl rfl
      have looped := Appends.forM item items
      rw [← List.map_eq_flatMap, ← Argument.anyHidesText_eq] at looped
      rw [body_of_list]
      exact looped
  | _ =>
      rw [body_of_single _ _ rfl rfl]
      exact alone

def visit (input d : Datum) : Run Unit := do
  let bound ← (Pattern.pair "key" "value").bind d
  discard (runAll (bound ++ [("searchParams", .params 0), ("input", input)]) body)

theorem result_value {scope : Scope} {chars : List Char} (given : scope.lookup "qs" = some (.text chars)) :
    result.value scope = pure (.text (FormData.marked chars)) := by
  simp only [result, Expression.value, Condition.holds, readName_of_lookup given, pure_bind, Datum.isTruthy,
    FormData.marked]
  cases chars <;> rfl

theorem call_object {properties : List (String × Datum)} {throws : Bool} {added : Pairs}
    (visits : Appends (((inOrder properties).map entry).forM (visit (.object properties))) throws added) :
    serializeQuery.call (.object properties) =
      if throws then .error .typeError else .ok (.text (FormData.marked (serialize added))) := by
  have looped : (((inOrder properties).map entry).forM fun d => do
      let bound ← (Pattern.pair "key" "value").bind d
      discard (runAll (bound ++ [("searchParams", Datum.params 0), ("input", Datum.object properties)]) body)).run
        [[]] = _ := visits []
  -- all but the loop is computed; the search parameters have place 0, being the first that are made
  simp only [Function.call, serializeQuery, runAll, Statement.run, Condition.holds, readName, List.lookup_cons, BEq.rfl,
    Datum.isTruthy, bind_pure_comp, map_pure, Bool.not_true, pure_bind, Bool.false_eq_true, ↓reduceIte,
    Expression.value, map_bind, Functor.map_map, Items.list, bind_assoc, bind_map_left, String.reduceBEq,
    StateT.run'_eq, StateT.run_bind, StateT.run_get, StateT.run_set, StateT.run_map, List.length_nil,
    List.nil_append, resultOf, looped]
  cases throws with
  | true => rfl
  | false =>
      change Prod.fst <$> StateT.run (result.value _) [added] = _
      rw [result_value rfl]
      rfl

theorem inOrder_of_named {properties : List (String × Datum)}
    (named : ∀ property ∈ properties, arrayIndex? property.1 = none) : inOrder properties = properties := by
  have indexes : properties.filter (fun property => (arrayIndex? property.1).isSome) = [] := by
    simpa using named
  have others : properties.filter (fun property => (arrayIndex? property.1).isNone) = properties := by
    simpa using named
  rw [inOrder, indexes, others, List.mergeSort_nil, List.nil_append]

theorem writeByte_eq (byte : UInt8) : writeByte byte = formByte byte := by
  have known : ∀ n < 256, writeByte (UInt8.ofNat n) = formByte (UInt8.ofNat n) := by
    decide +kernel
  have here := known byte.toNat byte.toNat_lt
  rwa [UInt8.ofNat_toNat] at here

theorem writePair_eq (name text : String) : writePair (name.toList, text.toList) = formPair name text := by
  have same : writeByte = formByte := funext writeByte_eq
  rw [writePair, TypeScript.SearchParams.write, TypeScript.SearchParams.write, same, formPair, formEncode_eq,
    formEncode_eq]

end Serializer

abbrev Arguments := List (String × Argument)

namespace Arguments

def toFields (arguments : Arguments) : Fields := arguments.map fun argument => (argument.1, argument.2.toValue)

def toDatum (arguments : Arguments) : Datum :=
  .object (arguments.map fun argument => (argument.1, argument.2.toDatum))

def hidesText (arguments : Arguments) : Bool := arguments.any (·.2.hidesText)

def pairs (arguments : Arguments) : Pairs := arguments.flatMap fun argument => argument.2.pairs argument.1

/-- Whether no name is the index of an array. -/
def AreNamed (arguments : Arguments) : Prop := ∀ argument ∈ arguments, arrayIndex? argument.1 = none

variable {arguments : Arguments}

theorem call_toDatum (named : arguments.AreNamed) :
    serializeQuery.call arguments.toDatum =
      if arguments.hidesText then .error .typeError
      else .ok (.text (FormData.marked (serialize arguments.pairs))) := by
  refine Serializer.call_object ?_
  rw [Serializer.inOrder_of_named, List.map_map]
  · exact Serializer.Appends.forM
      (fun argument => Serializer.body_appends arguments.toDatum argument.1 argument.2) arguments
  · intro property inside
    obtain ⟨argument, within, rfl⟩ := List.mem_map.1 inside
    exact named argument within

theorem entries_toFields (arguments : Arguments) :
    arguments.toFields.entries =
      arguments.flatMap fun argument => argument.2.sent.map fun item => (argument.1, item.toValue) := by
  rw [Fields.entries, toFields, List.flatMap_map]
  refine List.flatMap_congr fun argument _ => ?_
  change (Fields.sent argument.2.toValue).map _ = _
  rw [Argument.sent_toValue, List.map_map]
  rfl

/-- Whether lists in what is sent lie so deep at most, and no text of it holds half a surrogate pair. -/
def AreSendable (arguments : Arguments) : Prop :=
  ∀ argument ∈ arguments, ∀ item ∈ argument.2.sent, item.nesting ≤ maxNesting ∧
    ∀ c ∈ argument.1.toList ++ (spell item.toValue).toList, Text.Half.isHalf c = false

theorem isWritable_iff : IsWritable arguments.toFields ↔ arguments.AreSendable := by
  rw [IsWritable, AreSendable, entries_toFields]
  simp only [List.forall_mem_flatMap, List.forall_mem_map, Argument.isSpellable_toValue, decide_eq_true_eq]

theorem pairs_of_sendable (sendable : arguments.AreSendable) :
    arguments.pairs = (written arguments.toFields.entries).map fun pair => (pair.1.toList, pair.2.toList) := by
  rw [pairs, written, entries_toFields, List.map_flatMap, List.map_flatMap]
  refine List.flatMap_congr fun argument within => ?_
  simp only [Argument.pairs, List.map_map]
  refine List.map_congr_left fun item inside => ?_
  obtain ⟨wholeKey, wholeText⟩ := List.forall_mem_append.1 (sendable _ within item inside).2
  rw [Argument.pair, TypeScript.SearchParams.scalarValues_of_whole wholeKey,
    TypeScript.SearchParams.scalarValues_of_whole wholeText]
  rfl

theorem queryString_toFields (sendable : arguments.AreSendable) :
    queryString arguments.toFields = .ok (String.ofList (FormData.marked (serialize arguments.pairs))) := by
  rw [queryString_of_writable (isWritable_iff.2 sendable), FormData.write, serialize_eq_intercalate,
    pairs_of_sendable sendable, List.map_map]
  refine congrArg (fun pieces => Except.ok (String.ofList (FormData.marked (['&'].intercalate pieces)))) ?_
  exact List.map_congr_left fun pair _ => (Serializer.writePair_eq pair.1 pair.2).symm

/-- Whether a preview writes the query string that the helper returns. -/
def Agree (arguments : Arguments) : Prop :=
  ∃ text, queryString arguments.toFields = .ok text ∧
    serializeQuery.call arguments.toDatum = .ok (.text text.toList)

theorem agree_iff (named : arguments.AreNamed) :
    arguments.Agree ↔ arguments.AreSendable ∧ arguments.hidesText = false := by
  constructor
  · rintro ⟨text, given, returned⟩
    refine ⟨isWritable_iff.1 (writable_of_ok given), ?_⟩
    by_contra hides
    rw [call_toDatum named, if_pos (by simpa using hides)] at returned
    cases returned
  · rintro ⟨sendable, shows⟩
    refine ⟨_, queryString_toFields sendable, ?_⟩
    rw [call_toDatum named, shows, String.toList_ofList, if_neg Bool.false_ne_true]

end Arguments

/-- How the query string of a preview goes with the helper of hook files. -/
structure Mirrors (arguments : Arguments) : Prop where
  inlined : ∀ (groups : Api.Groups) (byTag : Bool) (extension : String),
    ∀ file ∈ Plan.hookFiles groups byTag extension,
      ∃ before after, file.contents = before ++ Code.text [serializeQuery.code] ++ after
  agrees : arguments.Agree ↔ arguments.AreSendable ∧ arguments.hidesText = false
  returns : arguments.hidesText = false → ∃ chars, serializeQuery.call arguments.toDatum = .ok (.text chars)
  throws : arguments.hidesText = true → serializeQuery.call arguments.toDatum = .error .typeError

/-- Previews write what the helper of every file of hooks returns, unless they cannot or it throws. -/
theorem queryString_mirrors {arguments : Arguments} (named : arguments.AreNamed) : Mirrors arguments where
  inlined := fun _ _ _ _ planned => exists_serializeQuery planned
  agrees := Arguments.agree_iff named
  returns := by
    intro shows
    refine ⟨FormData.marked (serialize arguments.pairs), ?_⟩
    rw [Arguments.call_toDatum named, shows, if_neg Bool.false_ne_true]
  throws := by
    intro hides
    rw [Arguments.call_toDatum named, if_pos hides]

/-- Parameters of each kind, with null as a parameter, in a list and in a list of a list. -/
def searchArguments : Arguments :=
  [("status", .list [.text "a&b", .null, .list [.null, .bool true]]), ("q", .null), ("limit", .int (-7) (by decide)),
    ("where", .map [("10", .null)])]

theorem search_mirrors : searchArguments.AreNamed ∧ Mirrors searchArguments ∧ searchArguments.Agree := by
  have named : searchArguments.AreNamed := by
    unfold Arguments.AreNamed
    decide +kernel
  have mirrors := queryString_mirrors named
  have sendable : searchArguments.AreSendable := by
    refine Arguments.isWritable_iff.1 ((all_isSendable_iff _).1 ?_)
    simp [searchArguments, Arguments.toFields, Fields.entries, Fields.sent, isSendable, isSpellable, areSpellable,
      Argument.toValue, Argument.toValues, Argument.toEntries, Value.hasLongInteger, maxNesting, spell, spellItems,
      spellItem, Value.display, Value.inspect]
    decide +kernel
  have shows : searchArguments.hidesText = false := by
    simp [searchArguments, Arguments.hidesText, Argument.hidesText, Argument.anyHidesText]
  exact ⟨named, mirrors, mirrors.agrees.2 ⟨sendable, shows⟩⟩

def nestedArgument : Nat → Argument
  | 0 => .null
  | n + 1 => .list [nestedArgument n]

theorem nesting_nestedArgument (n : Nat) : (nestedArgument n).nesting = n := by
  induction n with
  | zero => simp [nestedArgument, Argument.nesting]
  | succ n ih => simp [nestedArgument, Argument.nesting, Argument.nestingOfAll, ih]

/-- Whether the preview and the helper differ on a parameter. -/
def Differs (a : Argument) : Prop := Arguments.AreNamed [("q", a)] ∧ ¬ Arguments.Agree [("q", a)]

theorem differs_of_not {a : Argument} (fails : Arguments.AreSendable [("q", a)] → a.hidesText = true) : Differs a := by
  have named : Arguments.AreNamed [("q", a)] := by
    intro argument within
    rw [List.mem_singleton.1 within]
    exact (by decide +kernel : arrayIndex? "q" = none)
  refine ⟨named, fun agree => ?_⟩
  obtain ⟨sendable, shows⟩ := (Arguments.agree_iff named).1 agree
  have hidden : Arguments.hidesText [("q", a)] = true := by
    rw [Arguments.hidesText, List.any_cons, fails sendable, Bool.true_or]
  rw [hidden] at shows
  cases shows

/-- Half a surrogate pair and lists that lie too deep stop a preview, and a key can stop the helper. -/
theorem exists_not_agree :
    Differs (.text (String.singleton (Text.Half.ofUnit 0xD800))) ∧
      Differs (.list [nestedArgument (maxNesting + 1)]) ∧ Differs (.map [("toString", .null)]) := by
  refine ⟨differs_of_not fun sendable => ?_, differs_of_not fun sendable => ?_, differs_of_not fun _ => ?_⟩
  · have whole := (sendable _ List.mem_cons_self _ List.mem_cons_self).2 (Text.Half.ofUnit 0xD800)
      (by simp [Argument.toValue, spell, Value.display])
    exact absurd whole (by decide)
  · have flat := (sendable _ List.mem_cons_self _ List.mem_cons_self).1
    rw [nesting_nestedArgument] at flat
    exact absurd flat (Nat.not_succ_le_self maxNesting)
  · rw [Argument.hidesText]
    decide

end QueryHooks.Request
