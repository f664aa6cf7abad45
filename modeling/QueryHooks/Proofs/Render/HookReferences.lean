import QueryHooks.Proofs.Render.Silence

/-!
The references to query keys in files of hooks. The hook of a query refers to the key of its
operation, and beside these references there are only such as the texts of the description bring in.
-/

namespace QueryHooks.Render

open QueryHooks.Api (Groups Operation)
open QueryHooks.Naming (functionName isName_functionName isName_hookName isName_tagKey tagKey)
open QueryHooks.TypeScript (Code)
open QueryHooks.TypeScript.KeyReferences

/-- The references in the lines of code. -/
def codeReferences (code : List Code) : List (String × String) := (Code.allLines 0 code).flatMap ofChars

theorem codeReferences_append (first second : List Code) :
    codeReferences (first ++ second) = codeReferences first ++ codeReferences second := by
  rw [codeReferences, Code.allLines_append, List.flatMap_append]
  rfl

theorem codeReferences_flatMap {α : Type} (items : List α) (code : α → List Code) :
    codeReferences (items.flatMap code) = items.flatMap fun item => codeReferences (code item) := by
  rw [codeReferences, Code.allLines_flatMap, List.flatMap_assoc]
  rfl

mutual

/-- How deep code stands makes no difference to its references. -/
theorem references_lines (depth depth' : Nat) :
    (c : Code) → (Code.lines depth c).flatMap ofChars = (Code.lines depth' c).flatMap ofChars
  | .line text => by rw [Code.lines, Code.lines, List.flatMap_singleton, List.flatMap_singleton,
      ofChars_indent, ofChars_indent]
  | .blank => by rw [Code.lines, Code.lines]
  | .group parts => by
      rw [Code.lines, Code.lines]
      exact references_allLines depth depth' parts
  | .inner parts => by
      rw [Code.lines, Code.lines]
      exact references_allLines (depth + 1) (depth' + 1) parts

theorem references_allLines (depth depth' : Nat) :
    (code : List Code) → (Code.allLines depth code).flatMap ofChars = (Code.allLines depth' code).flatMap ofChars
  | [] => rfl
  | c :: rest => by
      rw [Code.allLines, Code.allLines, List.flatMap_append, List.flatMap_append,
        references_lines depth depth' c, references_allLines depth depth' rest]

end

section

variable {rest : List Code}

@[simp] theorem codeReferences_nil : codeReferences [] = [] := rfl

@[simp] theorem codeReferences_line (text : String) :
    codeReferences (.line text :: rest) = ofText text ++ codeReferences rest := by
  rw [codeReferences, Code.allLines_cons, List.flatMap_append, Code.lines_line, List.flatMap_singleton,
    ofChars_indent]
  rfl

@[simp] theorem codeReferences_blank : codeReferences (.blank :: rest) = codeReferences rest := by
  rw [codeReferences, Code.allLines_cons, List.flatMap_append, Code.lines_blank]
  rfl

@[simp] theorem codeReferences_inner (parts : List Code) :
    codeReferences (.inner parts :: rest) = codeReferences parts ++ codeReferences rest := by
  rw [codeReferences, Code.allLines_cons, List.flatMap_append, Code.lines_inner, references_allLines _ 0]
  rfl

@[simp] theorem codeReferences_braces (head tail : String) (body : List Code) :
    codeReferences (Code.braces head body tail :: rest) =
      ofText (head ++ "\x7b") ++ codeReferences body ++ ofText ("\x7d" ++ tail) ++ codeReferences rest := by
  rw [codeReferences, Code.allLines_cons, List.flatMap_append, Code.lines_braces, List.flatMap_cons,
    List.flatMap_append, List.flatMap_singleton, ofChars_indent, ofChars_indent, references_allLines _ 0]
  simp only [codeReferences, List.append_assoc]

end

theorem ofText_of_few {text : String} (few : text.toList.count '.' < 2) : ofText text = [] :=
  ofChars_of_count few

theorem ofText_of_not_mem {text : String} (free : 'K' ∉ text.toList) : ofText text = [] :=
  ofChars_of_not_infix (silent_of_not_mem free)

theorem ofText_between {before text after : String} (first : 'K' ∉ before.toList) (last : 'K' ∉ after.toList)
    (blank : ∃ start, before.toList = start ++ [' ']) (mark : ∃ c rest, isBreak c = true ∧ after.toList = c :: rest)
    (silent : Silent text.toList) : ofText (before ++ text ++ after) = [] := by
  obtain ⟨start, ends⟩ := blank
  obtain ⟨c, rest, breaks, begins⟩ := mark
  rw [ends] at first
  rw [begins] at last
  rw [ofText, String.toList_append, String.toList_append, ends, begins, List.append_assoc, List.append_assoc,
    List.singleton_append, ofChars_append_break (by decide), ofChars_append_break breaks,
    ofChars_of_not_infix silent, ofChars_of_not_infix (silent_of_not_mem fun inside => first (by simp [inside])),
    ofChars_of_not_infix (silent_of_not_mem fun inside => last (by simp [inside]))]
  rfl

theorem codeReferences_preamble (base : ImportBase) : codeReferences (Hooks.preamble base) = [] := by
  have keys : ofText ("import " ++ Code.inBraces "queryKeys" ++ " from '" ++ (base.text ++ "queryKeys.js") ++ "';") =
      [] := by
    cases base <;> decide
  have client (what : String) (free : 'K' ∉ what.toList) :
      ofText ("import " ++ what ++ " from '" ++ (base.text ++ "client.js") ++ "';") = [] := by
    have unnamed : 'K' ∉ base.text.toList := by cases base <;> decide
    refine ofText_of_not_mem ?_
    simp only [String.toList_append, List.mem_append, free, unnamed]
    decide
  simp only [Hooks.preamble, Hooks.importLine, Hooks.serializer, codeReferences_line, codeReferences_blank,
    codeReferences_braces, codeReferences_nil, keys]
  rw [client _ (by decide), client _ (by decide)]
  simp (disch := decide +kernel) only [ofText_of_few, ofText_of_not_mem, List.append_nil]

/-- The key that the hook of an operation is cached under. -/
def keyOf (op : Operation) : String × String := (tagKey op.tag, functionName op)

/-- The member of a query's hook that states its key. -/
def keyText (key : String × String) : String :=
  "queryKey: " ++ ("queryKeys." ++ key.1 ++ "." ++ key.2) ++ "(params?.query),"

theorem ofText_keyText {key : String × String} (namespaceNamed : Naming.IsName key.1.toList)
    (named : Naming.IsName key.2.toList) : ofText (keyText key) = [key] := by
  have before : "queryKey: ".toList = "queryKey:".toList ++ [' '] := by decide
  have after : "(params?.query),".toList = '(' :: "params?.query),".toList := by decide
  have reference : ofChars ("queryKeys." ++ key.1 ++ "." ++ key.2).toList = [key] :=
    ofText_reference namespaceNamed named
  rw [ofText, keyText, String.toList_append, String.toList_append, before, after, List.append_assoc,
    List.append_assoc, List.singleton_append, ofChars_append_break (by decide), ofChars_append_break (by decide),
    reference, ofChars_of_count (by decide), ofChars_of_count (by decide)]
  rfl

theorem ofText_head (tag : String) (op : Operation) :
    ofText ("export const " ++ (Hook.ofOperation tag op).name ++ " = <TData = " ++
      (Hook.ofOperation tag op).responseType ++ ">(") = [] := by
  have name : (Naming.hookName op).toList.count '.' = 0 :=
    List.count_eq_zero.2 ((isName_hookName op).not_mem (by decide))
  have type : (TypeScript.responseType op).toList.count '.' = 0 := by
    have known := TypeScript.responseType_cases op
    revert known
    generalize TypeScript.responseType op = type
    revert type
    decide
  refine ofText_of_few ?_
  simp only [String.toList_append, List.count_append, Hook.ofOperation, name, type]
  decide

theorem ofText_path {op : Operation} (silent : IsSilent op) (tag : String) :
    ofText ("const requestPath = " ++ (Hook.ofOperation tag op).pathExpression ++ ";") = [] :=
  ofText_between (by decide) (by decide) ⟨"const requestPath =".toList, by decide⟩
    ⟨';', [], by decide, by decide⟩ (silent_pathExpression silent.path _ _)

theorem silent_variablesType {op : Operation} (silent : IsSilent op) (tag : String) :
    Silent (Hook.ofOperation tag op).variablesType.toList := by
  refine silent_paramsType silent fun text inside => ?_
  split at inside
  · rw [← Option.some.inj inside]
    decide
  · cases inside

theorem codeReferences_requestLines {op : Operation} (silent : IsSilent op) (tag : String) {query : String}
    (few : query.toList.count '.' < 2) : codeReferences ((Hook.ofOperation tag op).requestLines query) = [] := by
  have search : ofText ("const search = serializeQuery(" ++ query ++ ");") = [] := by
    have around : "const search = serializeQuery(".toList.count '.' = 0 ∧ ");".toList.count '.' = 0 := by decide
    refine ofText_of_few ?_
    rwa [String.toList_append, String.toList_append, List.count_append, List.count_append, around.1, around.2,
      Nat.zero_add]
  simp only [Hook.requestLines, codeReferences_line, codeReferences_nil, ofText_path silent, search, List.append_nil]

theorem codeReferences_request (h : Hook) {settings : List Code} (none : codeReferences settings = []) :
    codeReferences [h.request settings] = [] := by
  have method : h.method.wireText.toList.count '.' = 0 := by cases h.method <;> decide
  have opening : ofText ("return client.request<TData>('" ++ h.method.wireText ++ "', requestPath + search, " ++
      "\x7b") = [] := by
    refine ofText_of_few ?_
    simp only [String.toList_append, List.count_append, method]
    decide
  have closing : ofText ("\x7d" ++ ");") = [] := by decide
  rw [Hook.request, codeReferences_braces, opening, none, closing]
  rfl

theorem codeReferences_retryLines : codeReferences Hook.retryLines = [] := by decide

theorem codeReferences_mutation {op : Operation} (silent : IsSilent op) (tag : String) :
    codeReferences (Hook.ofOperation tag op).mutationCode = [] := by
  have params : ofText ("useMutation<TData, ApiError, " ++ (Hook.ofOperation tag op).variablesType ++ ">(" ++
      "\x7b") = [] := by
    rw [String.append_assoc]
    exact ofText_between (by decide) (by decide) ⟨"useMutation<TData, ApiError,".toList, by decide⟩
      ⟨'>', ['(', '\x7b'], by decide, by decide⟩ (silent_variablesType silent tag)
  have destructured : ofText ("mutationFn: async (" ++ (Hook.ofOperation tag op).destructured ++ ") => " ++
      "\x7b") = [] := by
    rw [Hook.destructured]
    cases (Hook.ofOperation tag op).hasBody <;> decide
  have settings (hasBody : Bool) : codeReferences ((if hasBody then
      [.line "body: body === undefined ? undefined : JSON.stringify(body),"] else []) ++
      [.line ("headers: headers ? " ++ Code.inBraces "...headers" ++ " : undefined,"), .line "retry: false,"]) = [] := by
    cases hasBody <;> decide +kernel
  simp only [Hook.mutationCode, Hook.head, codeReferences_blank, codeReferences_line, codeReferences_inner,
    codeReferences_braces, codeReferences_append, codeReferences_nil, ofText_head, params, destructured,
    codeReferences_retryLines, codeReferences_requestLines silent tag (show "query".toList.count '.' < 2 by decide),
    codeReferences_request _ (settings _)]
  simp (disch := decide +kernel) only [ofText_of_few, ofText_of_not_mem, List.append_nil]

/-- The hook of a query refers to its own key alone. -/
theorem codeReferences_query {op : Operation} (silent : IsSilent op) :
    codeReferences (Hook.ofOperation op.tag op).queryCode = [keyOf op] := by
  have params : ofText ("params?: " ++ (Hook.ofOperation op.tag op).variablesType ++ ",") = [] :=
    ofText_between (by decide) (by decide) ⟨"params?:".toList, by decide⟩ ⟨',', [], by decide, by decide⟩
      (silent_variablesType silent op.tag)
  have key : ofText ("queryKey: " ++ (Hook.ofOperation op.tag op).keyFactory ++ "(params?.query),") =
      [keyOf op] := by
    rw [Hook.keyFactory]
    exact @ofText_keyText (keyOf op) (isName_tagKey op.tag) (isName_functionName op)
  have settings : codeReferences [.line "headers: params?.headers ?? undefined,", .line "signal,"] = [] := by
    decide +kernel
  simp only [Hook.queryCode, Hook.head, codeReferences_blank, codeReferences_line, codeReferences_inner,
    codeReferences_braces, codeReferences_append, codeReferences_nil, ofText_head, params, key,
    codeReferences_retryLines, codeReferences_requestLines silent op.tag (show "params?.query".toList.count '.' < 2 by decide),
    codeReferences_request _ settings]
  simp (disch := decide +kernel) only [ofText_of_few, ofText_of_not_mem, List.append_nil, List.nil_append]

theorem codeReferences_code {op : Operation} (silent : IsSilent op) :
    codeReferences (Hook.ofOperation op.tag op).code = if op.isQuery then [keyOf op] else [] := by
  have kind : (Hook.ofOperation op.tag op).method.isQuery = op.isQuery := rfl
  rw [Hook.code, kind]
  cases op.isQuery with
  | true => exact codeReferences_query silent
  | false => exact codeReferences_mutation silent op.tag

end QueryHooks.Render
