import QueryHooks.Proofs.Naming.Characters
import QueryHooks.Proofs.TypeScript.Namespaces
import QueryHooks.Render.QueryKeys

/-!
The files of query keys and of invalidation helpers, read back: in both every tag has a namespace, in
the first each of its operations has a factory beside the root, in the second each of its queries a
helper.
-/

namespace QueryHooks.Render

open QueryHooks.Api (Groups Operation)
open QueryHooks.Naming (IsName functionName isName_functionName isName_tagKey tagKey)
open QueryHooks.TypeScript (Code Member Namespace)

/-- The key that all keys of a namespace start with. -/
def rootMember (namespaceKey : String) : Member := ⟨"root", "['" ++ namespaceKey ++ "'] as const"⟩

/-- The factory of the keys of one operation. -/
def factoryMember (namespaceKey name : String) : Member :=
  ⟨name, "(params?: any) => ['" ++ namespaceKey ++ "', '" ++ name ++ "', params ?? \x7b\x7d] as const"⟩

/-- The helper that invalidates what is cached under the keys of one factory. -/
def helperMember (namespaceKey name : String) : Member :=
  ⟨name, "(params?: any) => qc.invalidateQueries(\x7b queryKey: queryKeys." ++ namespaceKey ++ "." ++ name ++
    "(params) \x7d)"⟩

def keyNamespace (group : String × List Operation) : Namespace where
  key := tagKey group.1
  members := rootMember (tagKey group.1) :: group.2.map fun op => factoryMember (tagKey group.1) (functionName op)

def helperNamespace (group : String × List Operation) : Namespace where
  key := tagKey group.1
  members := (group.2.filter (·.isQuery)).map fun op => helperMember (tagKey group.1) (functionName op)

/-- A literal of a name is the name in quotes. -/
theorem string_of_isName {name : String} (named : IsName name.toList) :
    TypeScript.string name = "'" ++ name ++ "'" := by
  have plain : ∀ c, Naming.isNameChar c = true → TypeScript.escape c = [c] := by
    intro c isName
    unfold TypeScript.escape
    split <;> first | rfl | cases isName
  have unescaped (chars : List Char) (named : IsName chars) :
      chars.flatMap TypeScript.escape = chars := by
    induction chars with
    | nil => rfl
    | cons c rest ih =>
        rw [List.flatMap_cons, plain c (named c List.mem_cons_self),
          ih fun d later => named d (List.mem_cons_of_mem _ later)]
        rfl
  rw [TypeScript.string, TypeScript.stringChars, unescaped _ named]
  apply String.toList_inj.1
  rw [String.toList_ofList, String.toList_append, String.toList_append]
  rfl

theorem isPlainKey_of_isName {name : String} (named : IsName name.toList) : Namespace.IsPlainKey name := by
  intro mark inside
  refine named.not_mem ?_
  revert mark
  decide

theorem plain_keyNamespace (group : String × List Operation) : (keyNamespace group).Plain where
  key := isPlainKey_of_isName (isName_tagKey group.1)
  members := by
    have key : '\n' ∉ (tagKey group.1).toList := (isName_tagKey group.1).not_mem (by decide)
    intro m inside
    rcases List.mem_cons.1 inside with rfl | factory
    · have constant : '\n' ∉ "['".toList ∧ '\n' ∉ "'] as const".toList := by decide
      refine ⟨show ∀ mark ∈ [':', ' ', '\n'], mark ∉ "root".toList by decide, ?_⟩
      simp only [rootMember, String.toList_append, List.mem_append, constant, key, or_self,
        not_false_eq_true]
    · obtain ⟨op, -, rfl⟩ := List.mem_map.1 factory
      have name : '\n' ∉ (functionName op).toList := (isName_functionName op).not_mem (by decide)
      have constant : '\n' ∉ "(params?: any) => ['".toList ∧ '\n' ∉ "', '".toList ∧
          '\n' ∉ "', params ?? \x7b\x7d] as const".toList := by decide
      refine ⟨isPlainKey_of_isName (isName_functionName op), ?_⟩
      simp only [factoryMember, String.toList_append, List.mem_append, constant, key, name, or_self,
        not_false_eq_true]

theorem plain_helperNamespace (group : String × List Operation) : (helperNamespace group).Plain where
  key := isPlainKey_of_isName (isName_tagKey group.1)
  members := by
    have key : '\n' ∉ (tagKey group.1).toList := (isName_tagKey group.1).not_mem (by decide)
    intro m inside
    obtain ⟨op, -, rfl⟩ := List.mem_map.1 inside
    have name : '\n' ∉ (functionName op).toList := (isName_functionName op).not_mem (by decide)
    have constant : '\n' ∉ "(params?: any) => qc.invalidateQueries(\x7b queryKey: queryKeys.".toList ∧
        '\n' ∉ ".".toList ∧ '\n' ∉ "(params) \x7d)".toList := by decide
    refine ⟨isPlainKey_of_isName (isName_functionName op), ?_⟩
    simp only [helperMember, String.toList_append, List.mem_append, constant, key, name, or_self,
      not_false_eq_true]

theorem opening_eq (key : String) :
    (Code.indent 1 ++ (key ++ ": " ++ "\x7b")).toList = ("  " ++ key ++ ": \x7b").toList := by
  simp only [String.toList_append, List.append_assoc]
  rfl

theorem lines_root {key : String} (named : IsName key.toList) :
    Code.lines 2 (.line ("root: [" ++ TypeScript.string key ++ "] as const,")) = [(rootMember key).line] := by
  rw [Code.lines_line, string_of_isName named, rootMember, Member.line]
  simp only [String.toList_append, List.append_assoc]
  rfl

theorem lines_factory {key : String} (named : IsName key.toList) (op : Operation) :
    Code.lines 2 (QueryKeys.factory key (.ofOperation op)) = [(factoryMember key (functionName op)).line] := by
  rw [QueryKeys.factory, KeyEntry.ofOperation, string_of_isName named,
    string_of_isName (isName_functionName op), Code.lines_line, factoryMember, Member.line]
  simp only [String.toList_append, List.append_assoc]
  rfl

theorem lines_helper (key : String) (op : Operation) :
    Code.lines 2 (Invalidate.helper key (.ofOperation op)) = [(helperMember key (functionName op)).line] := by
  rw [Invalidate.helper, KeyEntry.ofOperation, Code.lines_line, helperMember, Member.line, Code.inBraces]
  simp only [String.toList_append, List.append_assoc]
  rfl

theorem lines_keyGroup (group : String × List Operation) :
    Code.lines 1 (QueryKeys.groupCode ⟨tagKey group.1, group.2.map .ofOperation⟩) =
      (keyNamespace group).lines := by
  have named := isName_tagKey group.1
  have factories : Code.allLines 2 ((group.2.map KeyEntry.ofOperation).map (QueryKeys.factory (tagKey group.1))) =
      (group.2.map fun op => factoryMember (tagKey group.1) (functionName op)).map Member.line := by
    rw [List.map_map, List.map_map, Code.allLines_map, List.map_eq_flatMap]
    simp only [Function.comp_apply, lines_factory named]
  rw [QueryKeys.groupCode, Code.lines_braces, Code.allLines_cons, lines_root named, factories, opening_eq]
  rfl

theorem lines_helperGroup (group : String × List Operation) :
    Code.lines 1 (Invalidate.groupCode ⟨tagKey group.1, group.2.map .ofOperation⟩) =
      (helperNamespace group).lines := by
  have queries : (group.2.map KeyEntry.ofOperation).filter (·.isQuery) =
      (group.2.filter (·.isQuery)).map .ofOperation := by
    rw [List.filter_map]
    rfl
  have helpers : Code.allLines 2 (((group.2.filter (·.isQuery)).map KeyEntry.ofOperation).map
        (Invalidate.helper (tagKey group.1))) =
      ((group.2.filter (·.isQuery)).map fun op => helperMember (tagKey group.1) (functionName op)).map
        Member.line := by
    rw [List.map_map, List.map_map, Code.allLines_map, List.map_eq_flatMap]
    simp only [Function.comp_apply, lines_helper]
  rw [Invalidate.groupCode, Code.lines_braces, queries, helpers, opening_eq]
  rfl

/-- Every group has its namespace in the file of query keys, and the file holds nothing else. -/
theorem ofText_queryKeys (groups : Groups) :
    Namespace.ofText (queryKeys groups) = groups.map keyNamespace := by
  have inner : Code.allLines 1 ((KeyGroup.ofGroups groups).map QueryKeys.groupCode) =
      (groups.map keyNamespace).flatMap Namespace.lines := by
    rw [KeyGroup.ofGroups, List.map_map, Code.allLines_map, List.flatMap_map]
    exact congrArg (List.flatMap · groups) (funext lines_keyGroup)
  refine @Namespace.ofText_text _ ["// GENERATED FILE".toList, "export const queryKeys = \x7b".toList]
    ["\x7d as const;".toList] _ ?_ ?_ ?_ ?_ ?_
  · rw [Code.allLines_cons, Code.lines_line, Code.allLines_cons, Code.lines_braces, inner, Code.allLines_nil,
      List.append_nil]
    rfl
  · intro ns inside
    obtain ⟨group, -, rfl⟩ := List.mem_map.1 inside
    exact plain_keyNamespace group
  · decide
  · exact fun rest => rfl
  · rfl

theorem ofText_invalidate (groups : Groups) :
    Namespace.ofText (invalidate groups) = groups.map helperNamespace := by
  have inner : Code.allLines 1 ((KeyGroup.ofGroups groups).map Invalidate.groupCode) =
      (groups.map helperNamespace).flatMap Namespace.lines := by
    rw [KeyGroup.ofGroups, List.map_map, Code.allLines_map, List.flatMap_map]
    exact congrArg (List.flatMap · groups) (funext lines_helperGroup)
  refine @Namespace.ofText_text _
    ["// GENERATED FILE".toList, "import type \x7b QueryClient \x7d from '@tanstack/react-query';".toList,
      "import \x7b queryKeys \x7d from './queryKeys.js';".toList, [],
      "export const invalidate = (qc: QueryClient) => (\x7b".toList]
    ["\x7d);".toList] _ ?_ ?_ ?_ ?_ ?_
  · rw [Code.allLines_cons, Code.lines_line, Code.allLines_cons, Code.lines_line, Code.allLines_cons,
      Code.lines_line, Code.allLines_cons, Code.allLines_cons, Code.lines_braces, inner, Code.allLines_nil,
      List.append_nil, Code.lines]
    rfl
  · intro ns inside
    obtain ⟨group, -, rfl⟩ := List.mem_map.1 inside
    exact plain_helperNamespace group
  · decide
  · exact fun rest => rfl
  · rfl

end QueryHooks.Render
