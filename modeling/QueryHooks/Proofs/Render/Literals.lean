import QueryHooks.Proofs.Render.Headers
import QueryHooks.Proofs.TypeScript.Lines
import QueryHooks.Proofs.TypeScript.StringLiteral
import QueryHooks.Render.Client
import QueryHooks.Render.IntegrationConfig
import QueryHooks.Render.QueryKeys

/-!
The texts that files hold as literals: addresses, paths of types, headers and names of keys. A literal in single quotes
is read as its text where it stands, whatever the file goes on with, and none ends before its own last quote.
-/

namespace QueryHooks.Render

open QueryHooks.Api (Groups Operation)
open QueryHooks.TypeScript (Code string)
open QueryHooks.TypeScript.StringLiteral
open IntegrationConfig

variable {before text : String} {code : List Code}

/-- Whether a file holds a text as a literal right behind other text, where the literal is read as just this text. -/
def Holds (file before text : String) : Prop :=
  ∃ start rest : String, file = start ++ before ++ string text ++ rest ∧
    read? '\x27' (string text ++ rest).toList = some (text.toList, rest.toList)

theorem holds_of_mem (after : String) (inside : (before ++ string text ++ after).toList ∈ Code.allLines 0 code) :
    Holds (Code.text code) before text := by
  obtain ⟨start, rest, whole⟩ := Code.exists_text_of_mem inside
  refine ⟨start, after ++ "\n" ++ rest, ?_, ?_⟩
  · rw [whole]
    simp only [String.append_assoc]
  · rw [String.toList_append, read?_string]

/-- Lines of code at a depth hold the literals in them behind their margin. -/
theorem holds_of_line {depth : Nat} {line : String} (after : String)
    (inside : (Code.indent depth ++ line).toList ∈ Code.allLines 0 code)
    (whole : line = before ++ string text ++ after) : Holds (Code.text code) (Code.indent depth ++ before) text := by
  refine holds_of_mem after ?_
  rwa [whole, ← String.append_assoc, ← String.append_assoc] at inside

theorem indent_zero (line : String) : Code.indent 0 ++ line = line := String.empty_append

/-! ## The client -/

/-- The texts that a client holds: its address, where types are taken from, and the headers that it sends. -/
structure ClientHolds (baseUrl : String) (found : Option Integration) : Prop where
  address : Holds (client baseUrl found) (Code.indent 1 ++ "const base = (cfg.baseUrl ?? ") baseUrl
  types : ∀ i, found = some i →
    Holds (client baseUrl found) ("import type " ++ Code.inBraces "paths" ++ " from ") i.typesPath ∧
      Holds (client baseUrl found) ("export type " ++ Code.inBraces "paths, components" ++ " from ") i.typesPath
  headers : ∀ i, found = some i → ∀ header ∈ i.headers.getD [],
    Holds (client baseUrl found) (Code.indent 2) header.1 ∧
      Holds (client baseUrl found) (Code.indent 2 ++ (string header.1 ++ ": ")) header.2

/-- The settings of a client are lines of it, one level deep. -/
theorem mem_client_of_settings {baseUrl : String} {found : Option Integration} {line : List Char}
    (inside : line ∈ Code.allLines 1 (Client.settings baseUrl ((found.bind (·.headers)).getD []))) :
    line ∈ Code.allLines 0 (Client.code baseUrl found) := by
  unfold Client.code
  rw [Code.allLines_append, Code.allLines_append, Code.allLines_cons, Code.allLines_nil, List.append_nil]
  refine List.mem_append_left _ (List.mem_append_right _ (Code.mem_lines_braces ?_))
  simp only [Code.allLines_append, List.append_assoc]
  exact List.mem_append_left _ inside

theorem mem_settings_address (baseUrl : String) (headers : List (String × String)) :
    .line ("const base = (cfg.baseUrl ?? " ++ string baseUrl ++ ").replace(/\\/$/, \"\");") ∈
      Client.settings baseUrl headers := by
  unfold Client.settings
  exact .tail _ (.head _)

/-- A header is a line two levels deep. -/
theorem mem_settings_header {header : String × String} {headers : List (String × String)} (known : header ∈ headers)
    (baseUrl : String) : (Code.indent 2 ++ (string header.1 ++ ": " ++ string header.2 ++ ",")).toList ∈
      Code.allLines 1 (Client.settings baseUrl headers) := by
  have last : ∃ before head tail more, Client.settings baseUrl headers =
      before ++ [Code.braces head ([more] ++ headers.map Client.headerLine ++ tail) ";"] := by
    unfold Client.settings
    exact ⟨[_, _, _, _, _, _], _, _, _, rfl⟩
  obtain ⟨before, head, tail, more, whole⟩ := last
  rw [whole, Code.allLines_append, Code.allLines_cons]
  refine List.mem_append_right _ (List.mem_append_left _ (Code.mem_lines_braces (Code.mem_allLines_line ?_)))
  exact List.mem_append_left _ (List.mem_append_right _ (List.mem_map_of_mem known))

theorem mem_code_types (baseUrl : String) (i : Integration) :
    Client.typesImport i ∈ Client.code baseUrl (some i) ∧
      Client.typesExport i ⊆ Client.code baseUrl (some i) := by
  unfold Client.code
  constructor
  · simp only [List.append_assoc, Option.map_some, Option.toList_some]
    exact List.mem_append_right _ List.mem_cons_self
  · exact List.subset_append_right _ _

theorem clientHolds (baseUrl : String) (found : Option Integration) : ClientHolds baseUrl found where
  address := by
    have inside := mem_client_of_settings (Code.mem_allLines_line (mem_settings_address baseUrl
      ((found.bind (·.headers)).getD [])))
    exact holds_of_line _ inside rfl
  types := by
    rintro i rfl
    obtain ⟨imported, exported⟩ := mem_code_types baseUrl i
    have last : .line ("export type " ++ Code.inBraces "paths, components" ++ " from " ++ string i.typesPath ++ ";") ∈
        Client.typesExport i := .tail _ (.tail _ (.tail _ (.head _)))
    have placed {line : String} (inside : .line line ∈ Client.code baseUrl (some i)) :
        line.toList ∈ Code.allLines 0 (Client.code baseUrl (some i)) := by
      rw [← indent_zero line]
      exact Code.mem_allLines_line inside
    exact ⟨holds_of_mem _ (placed imported), holds_of_mem _ (placed (exported last))⟩
  headers := by
    rintro i rfl header known
    have inside : _ ∈ Code.allLines 0 (Client.code baseUrl (some i)) :=
      mem_client_of_settings (mem_settings_header known baseUrl)
    constructor
    · refine holds_of_mem (": " ++ string header.2 ++ ",") ?_
      simpa only [String.append_assoc] using inside
    · exact holds_of_line _ inside rfl

/-! ## Query keys and the descriptor -/

/-- The texts that the file of query keys holds for a group: its key, and the names of its operations. -/
structure KeysHold (file : String) (group : String × List Operation) : Prop where
  root : Holds file (Code.indent 2 ++ "root: [") (Naming.tagKey group.1)
  factories : ∀ op ∈ group.2,
    Holds file (Code.indent 2 ++ (Naming.functionName op ++ ": (params?: any) => [")) (Naming.tagKey group.1) ∧
      Holds file (Code.indent 2 ++ (Naming.functionName op ++ ": (params?: any) => [" ++
        string (Naming.tagKey group.1) ++ ", ")) (Naming.functionName op)

theorem keysHold {groups : Groups} {group : String × List Operation} (known : group ∈ groups) :
    KeysHold (queryKeys groups) group := by
  -- The lines of a group lie between the braces of its namespace, and these between the braces of the object.
  have placed {text : String} (inside : .line text ∈
      .line ("root: [" ++ string (Naming.tagKey group.1) ++ "] as const,") ::
        (group.2.map KeyEntry.ofOperation).map (QueryKeys.factory (Naming.tagKey group.1))) :
      (Code.indent 2 ++ text).toList ∈ Code.allLines 0 [.line "// GENERATED FILE",
        Code.braces "export const queryKeys = " ((KeyGroup.ofGroups groups).map QueryKeys.groupCode) " as const;"] := by
    refine Code.mem_allLines (.tail _ (.head _)) (Code.mem_lines_braces ?_)
    have grouped : QueryKeys.groupCode ⟨Naming.tagKey group.1, group.2.map .ofOperation⟩ ∈
        (KeyGroup.ofGroups groups).map QueryKeys.groupCode := by
      rw [KeyGroup.ofGroups, List.map_map]
      exact List.mem_map_of_mem known
    exact Code.mem_allLines grouped (Code.mem_lines_braces (Code.mem_allLines_line inside))
  refine ⟨holds_of_line _ (placed List.mem_cons_self) rfl, fun op declared => ?_⟩
  have factory : QueryKeys.factory (Naming.tagKey group.1) (.ofOperation op) ∈
      (group.2.map KeyEntry.ofOperation).map (QueryKeys.factory (Naming.tagKey group.1)) :=
    List.mem_map_of_mem (List.mem_map_of_mem declared)
  have inside := placed (List.mem_cons_of_mem _ factory)
  constructor
  · refine holds_of_line (", " ++ string (Naming.functionName op) ++ ", params ?? " ++ Code.emptyBraces ++
      "] as const,") inside ?_
    simp only [String.append_assoc, KeyEntry.ofOperation]
  · refine holds_of_line (", params ?? " ++ Code.emptyBraces ++ "] as const,") inside ?_
    simp only [String.append_assoc, KeyEntry.ofOperation]

/-! ## Headers of the descriptor -/

/-- What is written for a character inside double quotes does not end the literal. -/
theorem passes_of_escaped {c : Char} {used : List Char} (escaped : Escaped c used) : Passes '"' used := by
  cases escaped with
  | itself noQuote noEscape _ => exact passes_plain fun d inside => List.mem_singleton.1 inside ▸ ⟨noEscape, noQuote⟩
  | letter => exact passes_escape _ _
  | number control =>
      have digits : ∀ point < 32, ∀ d ∈ Text.Quoted.hexDigits 4 point, d ≠ '\\' ∧ d ≠ '"' := by decide
      exact (passes_escape '"' 'u').append (passes_plain (digits c.toNat control))

/-- Indentation moves what is behind a line end to another line, but not where the literal ends. -/
theorem behind_indentFrom (start : Bool) (chars rest : List Char) :
    (readInside? '"' (indentFrom start (chars.flatMap Json.escape ++ ['"']) ++ rest)).map (·.2) = some rest := by
  have margin (start : Bool) : Passes '"' (if start then [' ', ' '] else []) := by
    cases start <;> exact passes_plain (by decide)
  induction chars generalizing start with
  | nil => cases start <;> rfl
  | cons c more ih =>
      rw [List.flatMap_cons, List.append_assoc]
      by_cases separates : c ∈ separators
      · have feed : Passes '"' ['\n'] := passes_plain (by decide)
        rw [escape_of_mem_separators separates, List.singleton_append, indentFrom,
          if_pos (isLineBreak_of_mem_separators separates), ← List.singleton_append, List.append_assoc, feed, ih]
      · have escaped := escaped_escape c
        rw [indentFrom_plain start escaped.ne_nil (escaped.plain separates), List.append_assoc, List.append_assoc,
          margin start, passes_of_escaped escaped, ih]

theorem behind?_quoted (text : String) (rest : List Char) :
    behind? '"' (indentFrom false (Json.quoted text).toList ++ rest) = some rest := by
  have quote : ∀ c ∈ ['"'], Text.isLineBreak c = false := by decide
  rw [toList_quoted, ← List.singleton_append, indentFrom_append_plain quote, List.append_assoc, List.singleton_append,
    behind?, read?, if_pos rfl, behind_indentFrom]

/-- Whether a file holds a header in double quotes, of which each name and text ends at its own last one. -/
def HoldsHeader (file : String) (header : String × String) : Prop :=
  ∃ start rest, file.toList = start ++ (indentedHeader header ++ rest) ∧
    behind? '"' (indentedHeader header ++ rest) =
      some (": ".toList ++ (indentFrom false (Json.quoted header.2).toList ++ rest)) ∧
    behind? '"' (indentFrom false (Json.quoted header.2).toList ++ rest) = some rest

theorem holdsHeader_of_infix {file : String} {header : String × String}
    (inside : indentedHeader header <:+: file.toList) : HoldsHeader file header := by
  obtain ⟨start, rest, whole⟩ := inside
  refine ⟨start, rest, ?_, ?_, behind?_quoted header.2 rest⟩
  · rw [← whole, List.append_assoc]
  · rw [indentedHeader, List.append_assoc, List.append_assoc, behind?_quoted]

/-- The texts that the file of a descriptor holds. -/
structure ConfigHolds (i : Integration) : Prop where
  types : Holds (integrationConfig i) (Code.indent 1 ++ "typesPath: ") i.typesPath
  address : Holds (integrationConfig i) (Code.indent 1 ++ "baseUrl: ") (i.baseUrl.getD "")
  headers : ∀ header ∈ i.headers.getD [], HoldsHeader (integrationConfig i) header

theorem configHolds (i : Integration) : ConfigHolds i := by
  have placed {body : List Code} {text : String} (inside : .line text ∈ body) (rest : List Code) :
      (Code.indent 1 ++ text).toList ∈ Code.allLines 0 (.line "// GENERATED FILE" ::
        .line "// OpenAPI-TS Integration Configuration" ::
          Code.braces "export const openApiTsConfig = " body " as const;" :: rest) :=
    Code.mem_allLines (.tail _ (.tail _ (.head _))) (Code.mem_lines_braces (Code.mem_allLines_line inside))
  refine ⟨holds_of_line _ (placed (.head _) _) rfl, holds_of_line _ (placed (.tail _ (.head _)) _) rfl, ?_⟩
  intro header known
  have line : ∃ first last, integrationConfig i = first ++ (Code.indent 1 ++
      ("headers: " ++ indentRest (TypeScript.object (headersValue (i.headers.getD []))) ++ ",")) ++ "\n" ++ last :=
    Code.exists_text_of_mem (placed (.tail _ (.tail _ (.head _))) _)
  obtain ⟨first, last, isText⟩ := line
  obtain ⟨before, after, isPart⟩ := exists_headers_of_mem known
  refine holdsHeader_of_infix ⟨first.toList ++ ((Code.indent 1).toList ++ ("headers: ".toList ++ before)),
    after ++ (",".toList ++ ("\n".toList ++ last.toList)), ?_⟩
  rw [isText]
  simp only [String.toList_append, isPart, List.append_assoc]

/-! ## All literals -/

/-- How a text is written as a literal, and how this is read back with other text behind it. -/
structure ReadsBack (text : String) (after : List Char) : Prop where
  written : (string text).toList = '\x27' :: (replaceAll text.toList ++ ['\x27'])
  read : read? '\x27' ((string text).toList ++ after) = some (text.toList, after)
  line : '\n' ∉ (string text).toList

theorem readsBack (text : String) (after : List Char) : ReadsBack text after where
  written := by rw [toList_string, flatMap_escape_eq]
  read := read?_string text after
  line := not_mem_string text

/-- The texts that generated files hold as literals. -/
structure FilesHold (baseUrl : String) (found : Option Integration) (groups : Groups) : Prop where
  client : ClientHolds baseUrl found
  keys : ∀ group ∈ groups, KeysHold (queryKeys groups) group
  config : ∀ i, found = some i → ConfigHolds i

/--
A literal is read back as its text up to its own last quote, whatever follows, and stays on its line. So nothing that a
client, the query keys or the file of a descriptor hold as a literal can end it early.
-/
theorem literals_read_back (text : String) (after : List Char) (baseUrl : String) (found : Option Integration)
    (groups : Groups) : ReadsBack text after ∧ FilesHold baseUrl found groups := by
  refine ⟨readsBack text after, clientHolds baseUrl found, fun _ known => keysHold known, ?_⟩
  rintro i rfl
  exact configHolds i

end QueryHooks.Render
