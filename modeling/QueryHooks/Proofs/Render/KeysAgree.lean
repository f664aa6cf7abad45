import Mathlib.Data.List.Basic
import QueryHooks.Plan
import QueryHooks.Proofs.Api.Grouping
import QueryHooks.Proofs.Render.HookReferences
import QueryHooks.Proofs.Render.KeyFiles
import QueryHooks.Request.Preview

/-!
Query keys, invalidation helpers, hooks and previews derive the names of a key on their own, and
agree on them for every model: what a preview shows is what the hook uses, and the two files of keys
hold just the entries that are used. Only a description that names the object of keys in a path or in
the name of a parameter brings other references into the hooks.
-/

namespace QueryHooks.Render

open QueryHooks.Api (Groups Model Operation)
open QueryHooks.Naming (functionName isName_functionName isName_tagKey tagKey)
open QueryHooks.Request (CacheKey)
open QueryHooks.TypeScript (Code Member Namespace)
open QueryHooks.TypeScript.KeyReferences

/-- Whether a file of namespaces has a member in some namespace of a key. -/
def Emits (text namespaceKey : String) (m : Member) : Prop :=
  ∃ ns ∈ Namespace.ofText text, ns.key = namespaceKey ∧ m ∈ ns.members

/-- The text of an operation's hook. -/
def hookText (op : Operation) : String := Code.text (Hook.ofOperation op.tag op).code

/-- Whether a file holds the hook of an operation, and the hook states a key as its own. -/
structure UsesKey (contents : String) (op : Operation) (key : String × String) : Prop where
  inside : ∃ before after, contents = before ++ hookText op ++ after
  states : ∃ before after, hookText op = before ++ ("    " ++ keyText key) ++ "\n" ++ after

/-- The operations of each file of hooks. -/
def hookedOperations (groups : Groups) (byTag : Bool) : List (List Operation) :=
  if byTag then groups.map (·.2) else [groups.flatMap (·.2)]

/-- A file of hooks is its preamble and then the hooks of its operations. -/
def hooksCode (base : ImportBase) (ops : List Operation) : List Code :=
  Hooks.preamble base ++ ops.flatMap fun op => (Hook.ofOperation op.tag op).code

variable {model : Model} {byTag : Bool} {extension : String}

theorem tag_of_group {tag : String} {ops : List Operation} (grouped : (tag, ops) ∈ model.groups) :
    ∀ op ∈ ops, op ∈ model.operations ∧ op.tag = tag := by
  obtain ⟨-, rfl⟩ := Model.mem_groups_iff.1 grouped
  intro op inside
  obtain ⟨known, same⟩ := List.mem_filter.1 inside
  exact ⟨known, beq_iff_eq.1 same⟩

theorem group_of_operation {op : Operation} (known : op ∈ model.operations) :
    ∃ ops, (op.tag, ops) ∈ model.groups ∧ op ∈ ops :=
  ⟨_, Model.mem_groups_iff.2 ⟨List.mem_map_of_mem known, rfl⟩, List.mem_filter.2 ⟨known, beq_self_eq_true _⟩⟩

theorem body_of_group {tag : String} {ops : List Operation} (grouped : (tag, ops) ∈ model.groups) :
    Hooks.body tag ops = ops.flatMap fun op => (Hook.ofOperation op.tag op).code := by
  rw [Hooks.body]
  refine List.flatMap_congr fun op inside => ?_
  rw [(tag_of_group grouped op inside).2]

/-- The texts of the files of hooks, in both ways of grouping. -/
theorem contents_hookFiles (model : Model) (byTag : Bool) (extension : String) :
    (Plan.hookFiles model.groups byTag extension).map (·.contents) =
      (hookedOperations model.groups byTag).map fun ops =>
        Code.text (hooksCode (if byTag then .parent else .sibling) ops) := by
  cases byTag with
  | true =>
      simp only [Plan.hookFiles, hookedOperations, if_true, List.map_map]
      refine List.map_congr_left fun group grouped => ?_
      simp only [Function.comp_apply, hooksOfTag, hooksCode]
      rw [body_of_group grouped]
  | false =>
      simp only [Plan.hookFiles, hookedOperations, Bool.false_eq_true, if_false, List.map_singleton,
        combinedHooks, hooksCode, List.flatMap_assoc]
      rw [List.flatMap_congr fun group grouped => body_of_group grouped]

theorem exists_hooked {op : Operation} (known : op ∈ model.operations) (byTag : Bool) :
    ∃ ops ∈ hookedOperations model.groups byTag, op ∈ ops := by
  obtain ⟨ops, grouped, inside⟩ := group_of_operation known
  cases byTag with
  | true => exact ⟨ops, List.mem_map_of_mem grouped, inside⟩
  | false => exact ⟨_, List.mem_singleton_self _, List.mem_flatMap.2 ⟨_, grouped, inside⟩⟩

theorem mem_of_hooked {ops : List Operation} (hooked : ops ∈ hookedOperations model.groups byTag) :
    ∀ op ∈ ops, op ∈ model.operations := by
  intro op inside
  cases byTag with
  | true =>
      obtain ⟨group, grouped, rfl⟩ := List.mem_map.1 hooked
      exact (tag_of_group grouped op inside).1
  | false =>
      rw [List.mem_singleton.1 hooked] at inside
      obtain ⟨group, grouped, within⟩ := List.mem_flatMap.1 inside
      exact (tag_of_group grouped op within).1

theorem states_keyText {op : Operation} (isQuery : op.isQuery = true) :
    ∃ before after, hookText op = before ++ ("    " ++ keyText (keyOf op)) ++ "\n" ++ after := by
  have code : (Hook.ofOperation op.tag op).code = (Hook.ofOperation op.tag op).queryCode := by
    have kind : (Hook.ofOperation op.tag op).method.isQuery = true := isQuery
    rw [Hook.code, kind, if_pos rfl]
  have line : ("    " ++ keyText (keyOf op)).toList ∈ Code.allLines 0 (Hook.ofOperation op.tag op).code := by
    have indented : "    " = Code.indent 2 := by decide
    have stated : keyText (keyOf op) =
        "queryKey: " ++ (Hook.ofOperation op.tag op).keyFactory ++ "(params?.query)," := rfl
    rw [code, indented, stated, Hook.queryCode]
    simp only [Code.allLines_cons, Code.lines_inner, Code.lines_braces, Code.lines_line, List.mem_append,
      List.mem_cons, true_or, or_true]
  exact Code.exists_text_of_mem line

theorem exists_usesKey {op : Operation} (known : op ∈ model.operations) (isQuery : op.isQuery = true)
    (byTag : Bool) (extension : String) :
    ∃ file ∈ Plan.hookFiles model.groups byTag extension, UsesKey file.contents op (keyOf op) := by
  obtain ⟨ops, hooked, inside⟩ := exists_hooked known byTag
  have text : Code.text (hooksCode (if byTag then .parent else .sibling) ops) ∈
      (Plan.hookFiles model.groups byTag extension).map (·.contents) := by
    rw [contents_hookFiles]
    exact List.mem_map.2 ⟨ops, hooked, rfl⟩
  obtain ⟨file, planned, contents⟩ := List.mem_map.1 text
  obtain ⟨first, second, whole⟩ := List.append_of_mem inside
  refine ⟨file, planned, ⟨Code.text (hooksCode (if byTag then .parent else .sibling) first),
    Code.text (second.flatMap fun op => (Hook.ofOperation op.tag op).code), ?_⟩, ?_⟩
  · rw [contents, whole, hooksCode, hooksCode, List.flatMap_append, List.flatMap_cons, hookText,
      ← Code.text_append, ← Code.text_append]
    simp only [List.append_assoc]
  · exact states_keyText isQuery

theorem references_hooksCode {ops : List Operation} (silent : ∀ op ∈ ops, IsSilent op) (base : ImportBase) :
    ofText (Code.text (hooksCode base ops)) = (ops.filter (·.isQuery)).map keyOf := by
  have references : ofText (Code.text (hooksCode base ops)) = codeReferences (hooksCode base ops) :=
    ofText_text _
  rw [references, hooksCode, codeReferences_append, codeReferences_preamble, codeReferences_flatMap,
    List.nil_append]
  induction ops with
  | nil => rfl
  | cons op rest ih =>
      have later := ih (fun other inside => silent other (List.mem_cons_of_mem _ inside)) (ofText_text _)
      rw [List.flatMap_cons, codeReferences_code (silent op List.mem_cons_self), later]
      cases isQuery : op.isQuery with
      | true => rw [List.filter_cons_of_pos isQuery]; rfl
      | false => rw [List.filter_cons_of_neg (by simp [isQuery])]; rfl

theorem emits_factory {op : Operation} (known : op ∈ model.operations) :
    Emits (queryKeys model.groups) (tagKey op.tag) (factoryMember (tagKey op.tag) (functionName op)) := by
  obtain ⟨ops, grouped, inside⟩ := group_of_operation known
  refine ⟨keyNamespace (op.tag, ops), ?_, rfl, List.mem_cons_of_mem _ (List.mem_map.2 ⟨op, inside, rfl⟩)⟩
  rw [ofText_queryKeys]
  exact List.mem_map_of_mem grouped

theorem emits_helper {op : Operation} (known : op ∈ model.operations) (isQuery : op.isQuery = true) :
    Emits (invalidate model.groups) (tagKey op.tag) (helperMember (tagKey op.tag) (functionName op)) := by
  obtain ⟨ops, grouped, inside⟩ := group_of_operation known
  refine ⟨helperNamespace (op.tag, ops), ?_, rfl,
    List.mem_map.2 ⟨op, List.mem_filter.2 ⟨inside, isQuery⟩, rfl⟩⟩
  rw [ofText_invalidate]
  exact List.mem_map_of_mem grouped

theorem of_emits_key {namespaceKey : String} {m : Member}
    (emitted : Emits (queryKeys model.groups) namespaceKey m) :
    m = rootMember namespaceKey ∨ ∃ op ∈ model.operations,
      tagKey op.tag = namespaceKey ∧ m = factoryMember namespaceKey (functionName op) := by
  obtain ⟨ns, known, rfl, inside⟩ := emitted
  rw [ofText_queryKeys] at known
  obtain ⟨⟨tag, ops⟩, grouped, rfl⟩ := List.mem_map.1 known
  rcases List.mem_cons.1 inside with root | factory
  · exact .inl root
  · obtain ⟨op, within, rfl⟩ := List.mem_map.1 factory
    obtain ⟨declared, tagged⟩ := tag_of_group grouped op within
    exact .inr ⟨op, declared, congrArg tagKey tagged, rfl⟩

theorem of_emits_helper {namespaceKey : String} {m : Member}
    (emitted : Emits (invalidate model.groups) namespaceKey m) :
    ∃ op ∈ model.operations, op.isQuery = true ∧
      tagKey op.tag = namespaceKey ∧ m = helperMember namespaceKey (functionName op) := by
  obtain ⟨ns, known, rfl, inside⟩ := emitted
  rw [ofText_invalidate] at known
  obtain ⟨⟨tag, ops⟩, grouped, rfl⟩ := List.mem_map.1 known
  obtain ⟨op, within, rfl⟩ := List.mem_map.1 inside
  obtain ⟨member, isQuery⟩ := List.mem_filter.1 within
  obtain ⟨declared, tagged⟩ := tag_of_group grouped op member
  exact ⟨op, declared, isQuery, congrArg tagKey tagged, rfl⟩

theorem references_helper {key : String} (named : Naming.IsName key.toList) (op : Operation) :
    ofChars (helperMember key (functionName op)).line = [(key, functionName op)] := by
  have reference : ofChars ("queryKeys." ++ key ++ "." ++ functionName op).toList = [(key, functionName op)] :=
    ofText_reference named (isName_functionName op)
  have few : ("    " ++ functionName op ++ ": (params?: any) => qc.invalidateQueries(\x7b queryKey:").toList.count '.' <
      2 := by
    have name : (functionName op).toList.count '.' = 0 :=
      List.count_eq_zero.2 ((isName_functionName op).not_mem (by decide))
    simp only [String.toList_append, List.count_append, name]
    decide
  have whole : (helperMember key (functionName op)).line =
      ("    " ++ functionName op ++ ": (params?: any) => qc.invalidateQueries(\x7b queryKey:").toList ++ ' ' ::
        (("queryKeys." ++ key ++ "." ++ functionName op).toList ++ '(' :: "params) \x7d),".toList) := by
    simp only [helperMember, Member.line, String.toList_append, List.append_assoc]
    rfl
  rw [whole, ofChars_append_break (by decide), ofChars_append_break (by decide), reference, ofChars_of_count few,
    ofChars_of_count (by decide)]
  rfl

theorem references_helperNamespace (group : String × List Operation) :
    (helperNamespace group).lines.flatMap ofChars =
      (group.2.filter (·.isQuery)).map fun op => (tagKey group.1, functionName op) := by
  have opening : ofChars ("  " ++ tagKey group.1 ++ ": \x7b").toList = [] := by
    have name : (tagKey group.1).toList.count '.' = 0 :=
      List.count_eq_zero.2 ((isName_tagKey group.1).not_mem (by decide))
    refine ofChars_of_count ?_
    simp only [String.toList_append, List.count_append, name]
    decide
  have closing : ofChars "  \x7d,".toList = [] := by decide
  have helpers : (((group.2.filter (·.isQuery)).map fun op => helperMember (tagKey group.1) (functionName op)).map
      Member.line).flatMap ofChars =
      (group.2.filter (·.isQuery)).map fun op => (tagKey group.1, functionName op) := by
    rw [List.map_map, List.flatMap_map, List.map_eq_flatMap]
    exact List.flatMap_congr fun op _ => references_helper (isName_tagKey group.1) op
  rw [Namespace.lines, List.cons_append, List.flatMap_cons, List.flatMap_append, List.flatMap_singleton, closing,
    helperNamespace, opening, helpers, List.append_nil]
  rfl

/-- A helper refers to the factory whose keys it invalidates, and nothing else in the file to any. -/
theorem references_invalidate (groups : Groups) :
    ofText (invalidate groups) =
      groups.flatMap fun group => (group.2.filter (·.isQuery)).map fun op => (tagKey group.1, functionName op) := by
  have inner : codeReferences ((KeyGroup.ofGroups groups).map Invalidate.groupCode) =
      groups.flatMap fun group => (group.2.filter (·.isQuery)).map fun op => (tagKey group.1, functionName op) := by
    rw [codeReferences, references_allLines 0 1, KeyGroup.ofGroups, List.map_map, Code.allLines_map,
      List.flatMap_assoc]
    refine List.flatMap_congr fun group _ => ?_
    rw [← references_helperNamespace, ← lines_helperGroup]
    rfl
  have imports : ofText ("import " ++ Code.inBraces "queryKeys" ++ " from './queryKeys.js';") = [] := by decide
  rw [invalidate, ofText_text, ← codeReferences]
  simp only [codeReferences_line, codeReferences_blank, codeReferences_braces, codeReferences_nil, inner, imports]
  simp (disch := decide +kernel) only [ofText_of_few, List.append_nil, List.nil_append]

/-- The agreement of all files on the keys of a model's operations. -/
structure KeysAgree (model : Model) (byTag : Bool) (extension : String) : Prop where
  previewed : ∀ op ∈ model.operations, ∀ entries, ∃ key, CacheKey.ofOperation op (.map entries) = .ok key
  /-- What the preview of a query shows is what its hook uses, what a factory makes and what a helper invalidates. -/
  shared : ∀ op ∈ model.operations, op.isQuery = true → ∀ query key, CacheKey.ofOperation op query = .ok key →
    (∃ file ∈ Plan.hookFiles model.groups byTag extension,
      UsesKey file.contents op (key.namespaceKey, key.functionName)) ∧
    Emits (queryKeys model.groups) key.namespaceKey (factoryMember key.namespaceKey key.functionName) ∧
    Emits (invalidate model.groups) key.namespaceKey (helperMember key.namespaceKey key.functionName)
  factories : ∀ namespaceKey m, Emits (queryKeys model.groups) namespaceKey m → m = rootMember namespaceKey ∨
    ∃ op ∈ model.operations, tagKey op.tag = namespaceKey ∧ m = factoryMember namespaceKey (functionName op)
  helpers : ∀ namespaceKey m, Emits (invalidate model.groups) namespaceKey m →
    ∃ op ∈ model.operations, op.isQuery = true ∧ tagKey op.tag = namespaceKey ∧
      m = helperMember namespaceKey (functionName op)
  namespaces : (Namespace.ofText (queryKeys model.groups)).map (·.key) = model.groups.map (tagKey ·.1) ∧
    (Namespace.ofText (invalidate model.groups)).map (·.key) = model.groups.map (tagKey ·.1)
  invalidated : ∀ key ∈ ofText (invalidate model.groups),
    Emits (queryKeys model.groups) key.1 (factoryMember key.1 key.2)
  /-- In a silent description each hook refers to the key of its operation or to none, and so no file to anything else. -/
  hooked : (∀ op ∈ model.operations, IsSilent op) →
    (∀ op ∈ model.operations, ofText (hookText op) = if op.isQuery then [keyOf op] else []) ∧
    ∀ file ∈ Plan.hookFiles model.groups byTag extension, ∀ key ∈ ofText file.contents,
      Emits (queryKeys model.groups) key.1 (factoryMember key.1 key.2)

theorem keys_agree (model : Model) (byTag : Bool) (extension : String) : KeysAgree model byTag extension where
  previewed := fun op _ entries => ⟨_, rfl⟩
  shared := by
    intro op known isQuery query key previewed
    have names : key.namespaceKey = tagKey op.tag ∧ key.functionName = functionName op := by
      rw [CacheKey.ofOperation] at previewed
      cases fields : CacheKey.fieldsOf query with
      | error failure =>
          rw [fields] at previewed
          cases previewed
      | ok value =>
          rw [fields] at previewed
          cases previewed
          exact ⟨rfl, rfl⟩
    rw [names.1, names.2]
    exact ⟨exists_usesKey known isQuery byTag extension, emits_factory known, emits_helper known isQuery⟩
  factories := fun _ _ emitted => of_emits_key emitted
  helpers := fun _ _ emitted => of_emits_helper emitted
  namespaces := by
    rw [ofText_queryKeys, ofText_invalidate, List.map_map, List.map_map]
    exact ⟨rfl, rfl⟩
  invalidated := by
    intro key inside
    rw [references_invalidate] at inside
    obtain ⟨⟨tag, ops⟩, grouped, within⟩ := List.mem_flatMap.1 inside
    obtain ⟨op, query, rfl⟩ := List.mem_map.1 within
    obtain ⟨known, rfl⟩ := tag_of_group grouped op (List.mem_filter.1 query).1
    exact emits_factory known
  -- A text of the description in a hook could name the object of keys, so the hooks must be silent for this one.
  hooked := by
    intro silent
    refine ⟨fun op known => ?_, fun file planned key inside => ?_⟩
    · exact (ofText_text _).trans (codeReferences_code (silent op known))
    · have text : file.contents ∈ (Plan.hookFiles model.groups byTag extension).map (·.contents) :=
        List.mem_map_of_mem planned
      rw [contents_hookFiles] at text
      obtain ⟨ops, hooked, contents⟩ := List.mem_map.1 text
      have known := mem_of_hooked hooked
      rw [← contents, references_hooksCode fun op within => silent op (known op within)] at inside
      obtain ⟨op, query, rfl⟩ := List.mem_map.1 inside
      exact emits_factory (known op (List.mem_filter.1 query).1)

/-- A path that ends its literal and goes on with an expression of its own. -/
private def escaping : Operation :=
  ⟨"pets", "listPets", .get, "/a' + queryKeys.nope.nope() + '", none, none, [], none, []⟩

private def quiet : Operation := ⟨"pet store", "get-pet", .get, "/pets", none, none, [], none, []⟩

private def modelOf (op : Operation) : Model := ⟨[op], none, none, none⟩

theorem quiet_keys_agree :
    (∀ op ∈ (modelOf quiet).operations, IsSilent op) ∧ ofText (hookText quiet) = [("petStore", "getPet")] ∧
    ∃ file ∈ Plan.hookFiles (modelOf quiet).groups false "ts", UsesKey file.contents quiet ("petStore", "getPet") := by
  have silent : ∀ op ∈ (modelOf quiet).operations, IsSilent op := by
    intro op known
    rw [List.mem_singleton.1 known]
    refine ⟨silent_of_not_mem (by decide), ?_⟩
    intro p inside
    cases inside
  have agrees := keys_agree (modelOf quiet) false "ts"
  have known : quiet ∈ (modelOf quiet).operations := List.mem_singleton_self quiet
  have key : keyOf quiet = ("petStore", "getPet") := by decide
  refine ⟨silent, ?_, ?_⟩
  · rw [(agrees.hooked silent).1 quiet known, ← key]
    rfl
  · rw [← key]
    exact (agrees.shared quiet known rfl (.map []) _ rfl).1

theorem exists_foreign_reference :
    ∃ model : Model, ∃ file ∈ Plan.hookFiles model.groups true "ts", ∃ key ∈ ofText file.contents,
      ∀ m, ¬ Emits (queryKeys model.groups) key.1 m := by
  have groups : (modelOf escaping).groups = [("pets", [escaping])] := rfl
  have expression : (Hook.ofOperation "pets" escaping).pathExpression =
      "'/a' + queryKeys.nope.nope() + ''" := by decide
  have line : (Code.indent 3 ++ ("const requestPath = " ++ (Hook.ofOperation "pets" escaping).pathExpression ++
      ";")).toList ∈ Code.allLines 0 (Hook.ofOperation "pets" escaping).code := by
    have code : (Hook.ofOperation "pets" escaping).code = (Hook.ofOperation "pets" escaping).queryCode := rfl
    rw [code, Hook.queryCode]
    simp only [Hook.requestLines, Code.allLines_cons, Code.allLines_append, Code.lines_inner, Code.lines_braces,
      Code.lines_line, List.mem_append, List.mem_cons, true_or, or_true]
  have reference : ("nope", "nope") ∈ codeReferences (Hook.ofOperation "pets" escaping).code := by
    refine List.mem_flatMap.2 ⟨_, line, ?_⟩
    rw [ofChars_indent, expression]
    decide
  refine ⟨modelOf escaping, ⟨"hooks/pets.generated.ts", hooksOfTag "pets" [escaping]⟩, ?_, ("nope", "nope"), ?_, ?_⟩
  · rw [groups]
    exact List.mem_singleton.2 rfl
  · have references : ofText (hooksOfTag "pets" [escaping]) =
        codeReferences (Hooks.preamble .parent ++ Hooks.body "pets" [escaping]) := ofText_text _
    rw [references, codeReferences_append, Hooks.body, List.flatMap_singleton]
    exact List.mem_append_right _ reference
  · rintro m ⟨ns, known, same, -⟩
    rw [ofText_queryKeys, groups, List.map_singleton, List.mem_singleton] at known
    rw [known] at same
    exact absurd same (by decide)

end QueryHooks.Render
