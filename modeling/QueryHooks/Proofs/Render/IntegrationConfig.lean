import Mathlib.Tactic.IntervalCases
import QueryHooks.Proofs.Render.Headers
import QueryHooks.Proofs.TypeScript.Lines
import QueryHooks.Proofs.TypeScript.ObjectLiteral

/-!
The file of a descriptor, read as source text. It exports an object with the fields of the descriptor, unless a text
breaks its line: the paths and addresses keep carriage returns as they are, and the headers are indented by lines, also
where a line end is inside a text.
-/

namespace QueryHooks.Render.IntegrationConfig

open QueryHooks.Text (isLineBreak)
open QueryHooks.TypeScript (Code Literal Token charUnits textUnits textUnits_injective)
open QueryHooks.TypeScript.Script (arrayIndex?)
open QueryHooks.TypeScript.Literal (AreRead IsRead areRead_close isRead_text key? prototypeKey)
open QueryHooks.TypeScript.Token (Cuts Spells inside? inside?_mark inside?_spells inside?_lineEnd cuts_string)

/-! ## Texts in double quotes -/

/-- An escape is read as the character that it is written for. -/
theorem Escaped.spells {c : Char} {used : List Char} (escaped : Escaped c used) : Spells '"' c used := by
  cases escaped with
  | itself noQuote noEscape noControl =>
      refine .itself noQuote noEscape ⟨?_, ?_⟩ <;> rintro rfl <;> exact absurd noControl (by decide)
  | @letter d listed =>
      have known : ∀ pair ∈ letters, ∀ rest, TypeScript.escape? (pair.1 :: rest) = some (charUnits pair.2, rest) := by
        rw [letters]
        simp only [List.forall_mem_cons]
        exact ⟨fun _ => rfl, fun _ => rfl, fun _ => rfl, fun _ => rfl, fun _ => rfl, fun _ => rfl, fun _ => rfl,
          fun _ inside => nomatch inside⟩
      exact .escaped (by decide) (known (d, c) listed)
  | number control =>
      refine .escaped (by decide) fun rest => ?_
      rw [charUnits]
      generalize c.toNat = point at control
      interval_cases point <;> rfl

theorem inside?_unbroken {chars : List Char} (plain : ∀ c ∈ chars, c ∉ separators) (rest : List Char) :
    inside? '"' (indentFrom false (chars.flatMap Json.escape ++ ['"']) ++ rest) = some (textUnits chars, rest) := by
  induction chars with
  | nil => exact inside?_mark rest
  | cons c more ih =>
      have escaped := escaped_escape c
      obtain ⟨noSeparator, others⟩ := List.forall_mem_cons.1 plain
      rw [List.flatMap_cons, List.append_assoc, indentFrom_append_plain (escaped.plain noSeparator), List.append_assoc,
        inside?_spells escaped.spells, ih others]
      rfl

/-- The first line end in a text has become a line feed, which no text in quotes goes on behind. -/
theorem inside?_broken {chars : List Char} (separated : ∃ c ∈ chars, c ∈ separators) (rest : List Char) :
    inside? '"' (indentFrom false (chars.flatMap Json.escape ++ ['"']) ++ rest) = none := by
  induction chars with
  | nil => exact absurd separated (by simp)
  | cons c more ih =>
      rw [List.flatMap_cons, List.append_assoc]
      by_cases separates : c ∈ separators
      · rw [escape_of_mem_separators separates, List.singleton_append, indentFrom,
          if_pos (isLineBreak_of_mem_separators separates)]
        exact inside?_lineEnd (.inl rfl) (by decide) _
      · have escaped := escaped_escape c
        obtain ⟨d, inside, separates'⟩ := separated
        have later : d ∈ more := (List.mem_cons.1 inside).resolve_left fun same => separates (same ▸ separates')
        rw [indentFrom_append_plain (escaped.plain separates), List.append_assoc, inside?_spells escaped.spells,
          ih ⟨d, later, separates'⟩]
        rfl

theorem cuts_quoted (text : String) :
    Cuts (indentFrom false (Json.quoted text).toList) (IsUnbroken text) [.text (textUnits text.toList)] := by
  have quote : ∀ c ∈ ['"'], isLineBreak c = false := by decide
  rw [toList_quoted, ← List.singleton_append, indentFrom_append_plain quote, List.singleton_append]
  refine .quoted (.inr rfl) inside?_unbroken fun breaks rest => inside?_broken ?_ rest
  simpa [IsUnbroken] using breaks

/-! ## Headers -/

def headerMember (header : String × String) : List Nat × Literal :=
  (textUnits header.1.toList, .text (textUnits header.2.toList))

def headersLiteral (headers : List (String × String)) : Literal := .object (headers.map headerMember)

def headerTokens (header : String × String) : List Token :=
  [.text (textUnits header.1.toList), .mark ':', .text (textUnits header.2.toList)]

def headersTokens (headers : List (String × String)) : List Token :=
  .mark '\x7b' :: ([Token.mark ','].intercalate (headers.map headerTokens) ++ [.mark '\x7d'])

theorem cuts_header (header : String × String) :
    Cuts (indentedHeader header) (IsUnbroken header.1 ∧ IsUnbroken header.2) (headerTokens header) := by
  have colon : Cuts ": ".toList True [.mark ':'] := .punctuation _ (by decide)
  exact (cuts_quoted header.1).append (colon.always_append (cuts_quoted header.2))

/-- The headers are read unless a line end is in a text: indentation has put it on another line there. -/
theorem cuts_headers (headers : List (String × String)) :
    Cuts (indentRest (TypeScript.object (headersValue headers))).toList
      (∀ header ∈ headers, IsUnbroken header.1 ∧ IsUnbroken header.2) (headersTokens headers) := by
  by_cases some : headers = []
  · subst some
    have empty : (indentRest (TypeScript.object (headersValue []))).toList = "\x7b\x7d".toList := by decide
    have braces : Cuts "\x7b\x7d".toList True [.mark '\x7b', .mark '\x7d'] := .punctuation _ (by decide)
    rw [empty, headersTokens]
    simpa using braces
  · have opening : Cuts "\x7b\n    ".toList True [.mark '\x7b'] := .punctuation _ (by decide)
    have between : Cuts ",\n    ".toList True [.mark ','] := .punctuation _ (by decide)
    have closing : Cuts "\n  \x7d".toList True [.mark '\x7d'] := .punctuation _ (by decide)
    have inner := between.intercalate fun header (_ : header ∈ headers) => cuts_header header
    rw [toList_headers some, headersTokens]
    exact opening.always_append (inner.append_always closing)

/-- The name of what objects inherit from may stand in a literal once. -/
def SetsPrototypeOnce (headers : List (String × String)) : Prop := (headers.map (·.1)).count "__proto__" ≤ 1

theorem isRead_headers (headers : List (String × String)) :
    IsRead (headersTokens headers) (SetsPrototypeOnce headers) (headersLiteral headers) := by
  have members : AreRead ([Token.mark ','].intercalate (headers.map headerTokens) ++ [.mark '\x7d']) True
      (headers.map headerMember) := by
    induction headers with
    | nil => exact areRead_close
    | cons header rest ih =>
        cases rest with
        | nil => exact (isRead_text _).last rfl
        | cons second others =>
            simpa [headerTokens, headerMember] using (isRead_text (textUnits header.2.toList)).comma rfl ih
  have once : (headers.map headerMember).countP (·.1 == prototypeKey) = (headers.map (·.1)).count "__proto__" := by
    rw [List.countP_map, List.count, List.countP_map]
    refine List.countP_congr fun header _ => ?_
    rw [Function.comp_apply, Function.comp_apply, beq_iff_eq, beq_iff_eq, headerMember, prototypeKey,
      textUnits_injective.eq_iff, String.toList_inj]
  have read := members.object
  rw [true_and, once] at read
  exact read

/-! ## The file -/

variable {i : Integration}

/-- The fields of a descriptor by the keys that they have in its file. -/
def fields {α : Type} (typesPath baseUrl headers : α) : List (List Nat × α) :=
  [(textUnits "typesPath".toList, typesPath), (textUnits "baseUrl".toList, baseUrl),
    (textUnits "headers".toList, headers)]

/-- The object that a descriptor is written as. -/
def literal (i : Integration) : Literal :=
  .object (fields (.text (textUnits i.typesPath.toList)) (.text (textUnits (i.baseUrl.getD "").toList))
    (headersLiteral (i.headers.getD [])))

def literalTokens (i : Integration) : List Token :=
  .mark '\x7b' :: .name "typesPath".toList :: .mark ':' :: ([.text (textUnits i.typesPath.toList)] ++ .mark ',' ::
    .name "baseUrl".toList :: .mark ':' :: ([.text (textUnits (i.baseUrl.getD "").toList)] ++ .mark ',' ::
      .name "headers".toList :: .mark ':' :: (headersTokens (i.headers.getD []) ++ .mark ',' :: [.mark '\x7d'])))

theorem isRead_literal (i : Integration) :
    IsRead (literalTokens i) (SetsPrototypeOnce (i.headers.getD [])) (literal i) := by
  have isKey (name : String) : key? (.name name.toList) = some (textUnits name.toList) := rfl
  have last := (isRead_headers (i.headers.getD [])).comma (isKey "headers") areRead_close
  have later := (isRead_text (textUnits (i.baseUrl.getD "").toList)).comma (isKey "baseUrl") last
  have members := (isRead_text (textUnits i.typesPath.toList)).comma (isKey "typesPath") later
  have apart {α : Type} (first second third : α) : (fields first second third).countP (·.1 == prototypeKey) ≤ 1 := by
    have others : ∀ name ∈ ["typesPath", "baseUrl", "headers"], ¬ (textUnits name.toList == prototypeKey) = true := by
      decide
    rw [List.countP_eq_zero.2]
    · exact Nat.zero_le 1
    · simpa [fields] using others
  have read := members.object
  rw [true_and, true_and, and_true, ← fields, and_iff_left (apart _ _ _)] at read
  exact read

/-- The tokens behind the object. -/
def lastTokens : List Token :=
  [.name "export".toList, .name "type".toList, .name "OpenApiTsConfig".toList, .mark '=', .name "typeof".toList,
    .name "openApiTsConfig".toList, .mark ';']

theorem cuts_comment (line : String) (text : List Char) (written : line.toList = '/' :: '/' :: text)
    (oneLine : ∀ c ∈ text, Token.isLineEnd c = false) : Cuts ((Code.indent 0 ++ line).toList ++ ['\n']) True [] := by
  have margin : (Code.indent 0).toList = [] := by decide
  rw [String.toList_append, margin, List.nil_append, written]
  exact .comment text oneLine

/-- A member of the object is on a line of its own. -/
theorem cuts_member (head name : String) {value : String} {legible : Prop} {tokens : List Token}
    (written : head.toList = name.toList ++ ": ".toList) (isName : TypeScript.isIdentifierName name.toList = true)
    (cuts : Cuts value.toList legible tokens) :
    Cuts ((Code.indent 1 ++ (head ++ value ++ ",")).toList ++ ['\n']) legible
      (.name name.toList :: .mark ':' :: (tokens ++ [.mark ','])) := by
  have margin : Cuts (Code.indent 1).toList True [] := .punctuation _ (by decide)
  have colon : Cuts ": ".toList True [.mark ':'] := .punctuation _ (by decide)
  have comma : Cuts (",".toList ++ ['\n']) True [.mark ','] := .punctuation _ (by decide)
  have line := Cuts.name isName (colon.always_append (cuts.append_always comma)) rfl (List.cons_ne_nil _ _)
  have whole := margin.always_append line
  simpa [written] using whole

/-- Whether each text of a descriptor stays on its line. -/
structure IsLegible (i : Integration) : Prop where
  typesPath : '\r' ∉ i.typesPath.toList
  baseUrl : '\r' ∉ (i.baseUrl.getD "").toList
  headers : ∀ header ∈ i.headers.getD [], IsUnbroken header.1 ∧ IsUnbroken header.2

theorem isLegible_iff : IsLegible i ↔ '\r' ∉ i.typesPath.toList ∧ '\r' ∉ (i.baseUrl.getD "").toList ∧
    ∀ header ∈ i.headers.getD [], IsUnbroken header.1 ∧ IsUnbroken header.2 :=
  ⟨fun legible => ⟨legible.typesPath, legible.baseUrl, legible.headers⟩, fun ⟨first, second, third⟩ =>
    ⟨first, second, third⟩⟩

theorem cuts_config (i : Integration) : Cuts (integrationConfig i).toList (IsLegible i)
    (Literal.opening "openApiTsConfig" ++ (literalTokens i ++ (Literal.closing ++ lastTokens))) := by
  have note := cuts_comment "// GENERATED FILE" " GENERATED FILE".toList (by decide) (by decide)
  have title := cuts_comment "// OpenAPI-TS Integration Configuration" " OpenAPI-TS Integration Configuration".toList
    (by decide) (by decide)
  have opening : Cuts ((Code.indent 0 ++ ("export const openApiTsConfig = " ++ "\x7b")).toList ++ ['\n']) True
      (Literal.opening "openApiTsConfig" ++ [.mark '\x7b']) :=
    .phrase "" [("export", " "), ("const", " "), ("openApiTsConfig", " = \x7b\n")] (by decide) (by decide) (by decide)
      (by decide)
  have typesPath := cuts_member "typesPath: " "typesPath" (by decide) (by decide) (cuts_string i.typesPath)
  have baseUrl := cuts_member "baseUrl: " "baseUrl" (by decide) (by decide) (cuts_string (i.baseUrl.getD ""))
  have headers := cuts_member "headers: " "headers" (by decide) (by decide) (cuts_headers (i.headers.getD []))
  have closing : Cuts ((Code.indent 0 ++ ("\x7d" ++ " as const;")).toList ++ ['\n']) True
      (.mark '\x7d' :: Literal.closing) :=
    .phrase "\x7d " [("as", " "), ("const", ";\n")] (by decide) (by decide) (by decide) (by decide)
  have last : Cuts ("\n".toList ++ ((Code.indent 0 ++ "export type OpenApiTsConfig = typeof openApiTsConfig;").toList ++
      ['\n'])) True lastTokens :=
    .phrase "\n" [("export", " "), ("type", " "), ("OpenApiTsConfig", " = "), ("typeof", " "),
      ("openApiTsConfig", ";\n")] (by decide) (by decide) (by decide) (by decide)
  have whole := note.always_append <| title.always_append <| opening.always_append <|
    typesPath.append <| baseUrl.append <| headers.append_always <| closing.append_always last
  have newline : "\n".toList = ['\n'] := rfl
  rw [integrationConfig, Code.toList_text, isLegible_iff.eq]
  simpa only [Code.allLines_cons, Code.allLines_nil, Code.lines_line, Code.lines_braces, Code.lines_blank,
      List.flatMap_append, List.flatMap_cons, List.flatMap_nil, List.append_nil, List.nil_append, List.append_assoc,
      List.cons_append, List.singleton_append, newline, literalTokens] using whole

theorem exported?_config_iff {found : Literal} :
    Literal.exported? "openApiTsConfig" (integrationConfig i) = some found ↔
      (IsLegible i ∧ SetsPrototypeOnce (i.headers.getD [])) ∧ found = literal i := by
  by_cases legible : IsLegible i
  · have isCut := (cuts_config i).whole legible []
    rw [List.append_nil, Token.read?, Option.map_some, List.append_nil] at isCut
    rw [Literal.exported?_eq_some_iff (isRead_literal i) isCut, and_iff_right legible, SetsPrototypeOnce]
  · have uncut := (cuts_config i).broken legible []
    rw [List.append_nil] at uncut
    rw [Literal.exported?_eq_none uncut]
    exact iff_of_false (Option.some_ne_none found).symm fun found => legible found.1.1

/-! ## The object -/

def headerProperty (header : String × String) : List Nat × Literal.Result :=
  (textUnits header.1.toList, .text (textUnits header.2.toList))

/-- The object that a descriptor describes. -/
def described (i : Integration) : Literal.Result :=
  .object (fields (.text (textUnits i.typesPath.toList)) (.text (textUnits (i.baseUrl.getD "").toList))
    (.object ((i.headers.getD []).map headerProperty)))

/-- The keys of fields are no indexes, and each is there once. -/
theorem own_fields {α : Type} (first second third : α) :
    Literal.own (fields first second third) = fields first second third := by
  have named : ∀ name ∈ ["typesPath", "baseUrl", "headers"], arrayIndex? name = none := by
    have lettered : ∀ name ∈ ["typesPath", "baseUrl", "headers"], name.toList.any (!·.isDigit) = true := by decide
    intro name inside
    obtain ⟨c, here, noDigit⟩ := List.any_eq_true.1 (lettered name inside)
    exact Literal.arrayIndex?_eq_none here (by simpa using noDigit)
  have areOwn : Literal.AreOwn ["typesPath", "baseUrl", "headers"] := by
    refine ⟨by decide, by decide, List.pairwise_iff_forall_sublist.2 fun {a b} part j isIndex => ?_⟩
    rw [named b (part.subset (.tail _ (.head _)))] at isIndex
    cases isIndex
  exact (Literal.own_eq_self_iff_areOwn rfl).2 areOwn

theorem value_literal_iff (i : Integration) :
    (literal i).value = described i ↔ Literal.AreOwn ((i.headers.getD []).map (·.1)) := by
  have inner : ((i.headers.getD []).map headerMember).map (fun member => (member.1, member.2.value)) =
      (i.headers.getD []).map headerProperty := by
    rw [List.map_map]
    refine List.map_congr_left fun header _ => ?_
    rw [Function.comp_apply, headerMember, Literal.value]
    rfl
  have value : (literal i).value = .object (fields (.text (textUnits i.typesPath.toList))
      (.text (textUnits (i.baseUrl.getD "").toList))
      (.object (Literal.own ((i.headers.getD []).map headerProperty)))) := by
    have mapped (first second third : Literal) : (fields first second third).map (fun member =>
        (member.1, member.2.value)) = fields first.value second.value third.value := rfl
    rw [literal, Literal.value, Literal.values_eq_map, mapped, own_fields, Literal.value, Literal.value, headersLiteral,
      Literal.value, Literal.values_eq_map, inner]
  have named : ((i.headers.getD []).map headerProperty).map (·.1) =
      ((i.headers.getD []).map (·.1)).map fun name => textUnits name.toList := by
    rw [List.map_map, List.map_map]
    rfl
  rw [value, described, ← Literal.own_eq_self_iff_areOwn named]
  simp [fields]

theorem value_config_iff (i : Integration) :
    (Literal.exported? "openApiTsConfig" (integrationConfig i)).map Literal.value = some (described i) ↔
      IsLegible i ∧ Literal.AreOwn ((i.headers.getD []).map (·.1)) := by
  constructor
  · intro found
    obtain ⟨written, exports, same⟩ := Option.map_eq_some_iff.1 found
    obtain ⟨⟨legible, -⟩, rfl⟩ := exported?_config_iff.1 exports
    exact ⟨legible, (value_literal_iff i).1 same⟩
  · rintro ⟨legible, areOwn⟩
    have once : SetsPrototypeOnce (i.headers.getD []) := by
      rw [SetsPrototypeOnce, List.count_eq_zero.2 areOwn.own]
      exact Nat.zero_le 1
    rw [exported?_config_iff.2 ⟨⟨legible, once⟩, rfl⟩, Option.map_some, (value_literal_iff i).2 areOwn]

/--
What a file exports, read as source text: the literal of its descriptor if no text breaks its line, and otherwise
nothing. It makes the object that the descriptor describes if the names of the headers are names of properties of their
own, and in the order in which these are gone through.
-/
structure Denotes (i : Integration) : Prop where
  literal : ∀ found, Literal.exported? "openApiTsConfig" (integrationConfig i) = some found ↔
    (IsLegible i ∧ SetsPrototypeOnce (i.headers.getD [])) ∧ found = literal i
  value : (Literal.exported? "openApiTsConfig" (integrationConfig i)).map Literal.value = some (described i) ↔
    IsLegible i ∧ Literal.AreOwn ((i.headers.getD []).map (·.1))

theorem config_denotes (i : Integration) : Denotes i where
  literal _ := exported?_config_iff
  value := value_config_iff i

/--
A line separator in a header and a carriage return in a path leave a file that cannot be read, and a header with the
name of what objects inherit from is lost.
-/
theorem exists_config_broken :
    Literal.exported? "openApiTsConfig" (integrationConfig ⟨"./t.ts", none, some [("x", "a\u2028b")]⟩) = none ∧
      Literal.exported? "openApiTsConfig" (integrationConfig ⟨"./t\r.ts", none, none⟩) = none ∧
      (Literal.exported? "openApiTsConfig" (integrationConfig ⟨"./t.ts", none, some [("__proto__", "x")]⟩)).map
        Literal.value ≠ some (described ⟨"./t.ts", none, some [("__proto__", "x")]⟩) := by
  have unread {i : Integration} (illegible : ¬ IsLegible i) :
      Literal.exported? "openApiTsConfig" (integrationConfig i) = none :=
    Option.eq_none_iff_forall_ne_some.2 fun _ exports => illegible (exported?_config_iff.1 exports).1.1
  refine ⟨unread fun legible => ?_, unread fun legible => ?_, fun same => ?_⟩
  · exact absurd ((legible.headers ("x", "a\u2028b") (.head _)).2 '\u2028' (by decide)) (by decide)
  · exact legible.typesPath (by decide)
  · exact ((value_config_iff _).1 same).2.own (by decide)

end QueryHooks.Render.IntegrationConfig
