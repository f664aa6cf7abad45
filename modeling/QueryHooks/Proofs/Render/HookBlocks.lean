import Mathlib.Data.List.Basic
import QueryHooks.Proofs.Naming.Characters
import QueryHooks.Proofs.Render.KeysAgree

/-!
Files of hooks as a preamble and blocks, one for each operation. Grouping decides only which file a block
is in, and how the preamble names the other files.
-/

namespace QueryHooks.Render

open QueryHooks.Api (Groups Model Operation)
open QueryHooks.Naming (isName_hookName)
open QueryHooks.TypeScript (Code)

/-- The text of an operation's hook, in the file of a tag. -/
def block (tag : String) (op : Operation) : String := Code.text (Hook.ofOperation tag op).code

def blocks (tag : String) (ops : List Operation) : String := String.join (ops.map (block tag))

/-- What the preamble has before, between and after the places that lead to the other files. -/
def preamblePieces : List String := [
  "// GENERATED FILE\nimport \x7b useQuery, useMutation \x7d from '@tanstack/react-query';\n" ++
    "import \x7b createClient \x7d from '",
  "client.js';\nimport \x7b queryKeys \x7d from '",
  "queryKeys.js';\nimport type \x7b ApiError \x7d from '",
  "client.js';\n\nconst client = createClient();\n\n" ++ Code.text [Hooks.serializer]]

/-- The code of a hook: an arrow function with options as its last parameter, and the call that it returns. -/
def frame (name type : String) (parameters options : List Code) (call : String) (body : List Code) : List Code :=
  [.blank,
    .line ("export const " ++ name ++ " = <TData = " ++ type ++ ">("),
    .inner (parameters ++ [Code.braces "options?: " options ""]),
    .line ") =>",
    .inner [Code.braces call body ");"]]

/-- Whether a text is that of a hook with such parameters and such a call. -/
def IsHook (parameters : List Code) (call text : String) : Prop :=
  ∃ name type options body, '\n' ∉ String.toList name ∧ '\n' ∉ String.toList type ∧
    text = Code.text (frame name type parameters options call body)

def IsQueryHook (text : String) : Prop :=
  ∃ inputs, IsHook [.line ("params?: " ++ inputs ++ ",")] "useQuery<TData, ApiError>(" text

def IsMutationHook (text : String) : Prop :=
  ∃ inputs, IsHook [] ("useMutation<TData, ApiError, " ++ inputs ++ ">(") text

theorem text_preamble (base : ImportBase) : Code.text (Hooks.preamble base) = base.text.intercalate preamblePieces := by
  cases base <;> decide +kernel

theorem text_flatMap {α : Type} (code : α → List Code) (items : List α) :
    Code.text (items.flatMap code) = String.join (items.map fun item => Code.text (code item)) := by
  induction items with
  | nil => rfl
  | cons item rest ih => rw [List.flatMap_cons, Code.text_append, ih, List.map_cons, String.join_cons]

theorem text_body (tag : String) (ops : List Operation) : Code.text (Hooks.body tag ops) = blocks tag ops :=
  text_flatMap _ ops

variable (tag : String) (op : Operation)

theorem newline_not_mem_hookName : '\n' ∉ (Naming.hookName op).toList :=
  (isName_hookName op).not_mem (by decide)

theorem newline_not_mem_responseType : '\n' ∉ (TypeScript.responseType op).toList := by
  have known := TypeScript.responseType_cases op
  generalize TypeScript.responseType op = type at known
  simp only [List.mem_cons, List.not_mem_nil, or_false] at known
  rcases known with rfl | rfl | rfl <;> decide

theorem isQueryHook_queryCode : IsQueryHook (Code.text (Hook.ofOperation tag op).queryCode) :=
  ⟨_, _, _, _, _, newline_not_mem_hookName op, newline_not_mem_responseType op, rfl⟩

theorem isMutationHook_mutationCode : IsMutationHook (Code.text (Hook.ofOperation tag op).mutationCode) :=
  ⟨_, _, _, _, _, newline_not_mem_hookName op, newline_not_mem_responseType op, rfl⟩

theorem toList_frame (name type : String) (parameters options : List Code) (call : String) (body : List Code) :
    (Code.text (frame name type parameters options call body)).toList =
      '\n' :: (("export const " ++ name ++ " = <TData = " ++ type ++ ">(").toList ++ '\n' ::
        (Code.text (.inner (parameters ++ [Code.braces "options?: " options ""]) ::
          [.line ") =>", .inner [Code.braces call body ");"]])).toList) := by
  have flush : Code.indent 0 = "" := by decide
  rw [frame, Code.toList_text, Code.toList_text]
  simp only [Code.allLines_cons, Code.lines_blank, Code.lines_line, flush]
  simp

theorem newline_not_mem_head {name type : String} (named : '\n' ∉ name.toList) (typed : '\n' ∉ type.toList) :
    '\n' ∉ ("export const " ++ name ++ " = <TData = " ++ type ++ ">(").toList := by
  simp [named, typed]

/-- The first parameter of a hook tells its kind. -/
theorem not_isQueryHook_of_isMutationHook {text : String} (mutation : IsMutationHook text) : ¬ IsQueryHook text := by
  rintro ⟨inputs, name, type, options, body, named, typed, query⟩
  obtain ⟨_, name', type', options', body', named', typed', rfl⟩ := mutation
  have same := congrArg String.toList query
  -- after the empty line and the one with the name comes `params` in the one, `options` in the other
  rw [toList_frame, toList_frame, List.cons_inj_right] at same
  replace same := congrArg (Text.cutAt '\n') same
  rw [Text.cutAt_append (newline_not_mem_head named typed),
    Text.cutAt_append (newline_not_mem_head named' typed')] at same
  have indented : Code.indent 1 = "  " := by decide
  simp [Code.toList_text, indented] at same

/-- How the files of hooks of groups are made up, with one file for each tag and with one for all. -/
structure GroupedAlike (groups : Groups) : Prop where
  apart : ∀ group ∈ groups,
    hooksOfTag group.1 group.2 = "../".intercalate preamblePieces ++ blocks group.1 group.2
  together : combinedHooks groups =
    "./".intercalate preamblePieces ++ String.join (groups.map fun group => blocks group.1 group.2)

/-- What a block is, by the method of its operation. -/
structure IsBlockOf (op : Operation) (text : String) : Prop where
  filled : text ≠ ""
  query : IsQueryHook text ↔ op.method = .get ∨ op.method = .head
  mutation : IsMutationHook text ↔ ¬ (op.method = .get ∨ op.method = .head)

theorem groupedAlike (groups : Groups) : GroupedAlike groups where
  apart := by
    intro group _
    rw [hooksOfTag, Code.text_append, text_preamble, text_body]
    rfl
  together := by
    rw [combinedHooks, Code.text_append, text_preamble, text_flatMap]
    simp only [text_body]
    rfl

theorem isBlockOf_block : IsBlockOf op (block tag op) := by
  have filled {text : String} (hook : IsQueryHook text ∨ IsMutationHook text) : text ≠ "" := by
    rintro rfl
    rcases hook with ⟨_, _, _, _, _, -, -, same⟩ | ⟨_, _, _, _, _, -, -, same⟩
    all_goals
      have chars := congrArg String.toList same
      rw [toList_frame] at chars
      cases chars
  have kind : op.method.isQuery = true ↔ op.method = .get ∨ op.method = .head := by
    cases op.method <;> decide
  rw [block, Hook.code, show (Hook.ofOperation tag op).method = op.method from rfl]
  by_cases query : op.method.isQuery = true
  · have hook := isQueryHook_queryCode tag op
    have no : ¬ IsMutationHook (Code.text (Hook.ofOperation tag op).queryCode) := fun mutation =>
      not_isQueryHook_of_isMutationHook mutation hook
    rw [if_pos query]
    exact ⟨filled (.inl hook), iff_of_true hook (kind.1 query), iff_of_false no (not_not_intro (kind.1 query))⟩
  · have hook := isMutationHook_mutationCode tag op
    have no := not_isQueryHook_of_isMutationHook hook
    rw [if_neg query]
    exact ⟨filled (.inr hook), iff_of_false no fun read => query (kind.2 read),
      iff_of_true hook fun read => query (kind.2 read)⟩

/-- The files of hooks among those of a plan, and the operations that each of them has the blocks of. -/
def HoldsEachOnce (options : Options) (model : Model) (integration : Option Integration) : Prop :=
  ∃ (files : List PlannedFile) (parts : List (List Operation)),
    plan options model integration = Plan.coreFiles options model integration ++ Plan.typeFiles options model ++
      files ++ Plan.integrationFiles options integration ∧
    files.map (·.contents) = parts.map (fun ops =>
      (if options.groupByTag then "../" else "./").intercalate preamblePieces ++
        String.join (ops.map fun op => block op.tag op)) ∧
    parts.flatten = model.groups.flatMap (·.2) ∧ parts.flatten.Perm model.operations

theorem flatten_hookedOperations (groups : Groups) (byTag : Bool) :
    (hookedOperations groups byTag).flatten = groups.flatMap (·.2) := by
  cases byTag with
  | true => exact (List.flatMap_def).symm
  | false => simp [hookedOperations]

theorem holdsEachOnce (options : Options) (model : Model) (integration : Option Integration) :
    HoldsEachOnce options model integration := by
  have order := flatten_hookedOperations model.groups options.groupByTag
  refine ⟨_, hookedOperations model.groups options.groupByTag, rfl, ?_, order, order ▸ model.perm_groups⟩
  rw [contents_hookFiles]
  refine List.map_congr_left fun ops _ => ?_
  rw [hooksCode, Code.text_append, text_preamble, text_flatMap]
  cases options.groupByTag <;> rfl

/-- Grouping decides which file has a hook, and nothing else about it. -/
theorem grouping_keeps_hooks :
    (∀ groups, GroupedAlike groups) ∧ (∀ tag op, IsBlockOf op (block tag op)) ∧
      ∀ options model integration, HoldsEachOnce options model integration :=
  ⟨groupedAlike, isBlockOf_block, holdsEachOnce⟩

end QueryHooks.Render
