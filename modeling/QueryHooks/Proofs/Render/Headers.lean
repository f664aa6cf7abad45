import QueryHooks.Proofs.Text.Pieces
import QueryHooks.Render.IntegrationConfig

/-!
The headers of a descriptor as its file has them: texts in double quotes on a line each, and all lines indented, also
where a line end is inside a text.
-/

namespace QueryHooks.Render.IntegrationConfig

open QueryHooks.Text (isLineBreak lines)

variable {c : Char} {chars : List Char}

/-! ## Lines -/

/-- Each line end as a line feed, and two spaces before what a line starts with. -/
def indentFrom : Bool → List Char → List Char
  | _, [] => []
  | start, c :: rest =>
      if isLineBreak c then '\n' :: indentFrom true rest
      else (if start then [' ', ' '] else []) ++ c :: indentFrom false rest

/-- A line behind its indentation; an empty line stays empty. -/
def indentLine (line : List Char) : List Char := if line.isEmpty then [] else ' ' :: ' ' :: line

theorem lines_of_break (isBreak : isLineBreak c = true) (noReturn : c ≠ '\r') (rest : List Char) :
    lines (c :: rest) = [] :: lines rest := by
  rw [lines, if_pos isBreak]
  exact fun _ same => absurd same noReturn

theorem lines_of_plain {first rest : List Char} {others : List (List Char)} (plain : isLineBreak c = false)
    (isRest : lines rest = first :: others) : lines (c :: rest) = (c :: first) :: others := by
  have noReturn : c ≠ '\r' := by
    rintro rfl
    cases plain
  rw [lines, if_neg (by rw [plain]; decide), isRest]
  exact fun _ same => absurd same noReturn

/-- Indentation by lines, seen character by character. Two characters that are one line end do not occur. -/
theorem exists_lines (noReturn : '\r' ∉ chars) : ∃ first others, lines (chars ++ ['\n']) = first :: others ∧
    ∀ start, indentFrom start chars =
      (if start then indentLine first else first) ++ others.flatMap fun line => '\n' :: indentLine line := by
  induction chars with
  | nil =>
      refine ⟨[], [], rfl, fun start => ?_⟩
      cases start <;> rfl
  | cons c rest ih =>
      obtain ⟨noReturn', later⟩ := List.ne_and_not_mem_of_not_mem_cons noReturn
      obtain ⟨first, others, isLines, indents⟩ := ih later
      cases breaks : isLineBreak c with
      | true =>
          refine ⟨[], first :: others, ?_, fun start => ?_⟩
          · rw [List.cons_append, lines_of_break breaks noReturn'.symm, isLines]
          · rw [indentFrom, if_pos breaks, indents true]
            cases start <;> rfl
      | false =>
          refine ⟨c :: first, others, ?_, fun start => ?_⟩
          · rw [List.cons_append, lines_of_plain breaks isLines]
          · rw [indentFrom, if_neg (by rw [breaks]; decide), indents false]
            cases start <;> rfl

theorem toList_indentRest {text : String} (noReturn : '\r' ∉ text.toList) :
    (indentRest text).toList = indentFrom false text.toList := by
  obtain ⟨first, others, isLines, indents⟩ := exists_lines noReturn
  rw [indentRest, isLines, indents false]
  exact String.toList_ofList

/-- The text stands in a line where it ends, so that no indentation is before what follows. -/
def EndsInLine (chars : List Char) : Prop := chars.getLast?.any isLineBreak = false

instance : Decidable (EndsInLine chars) := inferInstanceAs (Decidable (chars.getLast?.any isLineBreak = false))

theorem indentFrom_append_plain (plain : ∀ c ∈ chars, isLineBreak c = false) (rest : List Char) :
    indentFrom false (chars ++ rest) = chars ++ indentFrom false rest := by
  induction chars with
  | nil => rfl
  | cons c more ih =>
      rw [List.cons_append, indentFrom, if_neg (by rw [plain c List.mem_cons_self]; decide),
        ih fun d inside => plain d (List.mem_cons_of_mem _ inside)]
      rfl

theorem indentFrom_plain (start : Bool) (nonEmpty : chars ≠ []) (plain : ∀ c ∈ chars, isLineBreak c = false)
    (rest : List Char) : indentFrom start (chars ++ rest) =
      (if start then [' ', ' '] else []) ++ (chars ++ indentFrom false rest) := by
  cases chars with
  | nil => exact absurd rfl nonEmpty
  | cons c more =>
      rw [List.cons_append, indentFrom, if_neg (by rw [plain c List.mem_cons_self]; decide),
        indentFrom_append_plain fun d inside => plain d (List.mem_cons_of_mem _ inside), List.cons_append]

theorem indentFrom_append (ends : EndsInLine chars) (rest : List Char) :
    indentFrom false (chars ++ rest) = indentFrom false chars ++ indentFrom false rest := by
  have concat {c : Char} (start : Bool) (before : List Char) (plain : isLineBreak c = false) :
      indentFrom start (before ++ [c] ++ rest) = indentFrom start (before ++ [c]) ++ indentFrom false rest := by
    induction before generalizing start with
    | nil =>
        simp only [List.nil_append, List.singleton_append, indentFrom, plain, Bool.false_eq_true, if_false]
        rw [List.append_assoc]
        rfl
    | cons d before ih =>
        simp only [List.cons_append, indentFrom]
        split
        · rw [ih, List.cons_append]
        · rw [ih, List.append_assoc, List.cons_append]
  rcases List.eq_nil_or_concat chars with rfl | ⟨before, last, rfl⟩
  · rfl
  · rw [List.concat_eq_append, EndsInLine, List.getLast?_concat, Option.any_some] at *
    exact concat false before ends

theorem indentFrom_intercalate {between : List Char} {pieces : List (List Char)} (betweenEnds : EndsInLine between)
    (ends : ∀ piece ∈ pieces, EndsInLine piece) (rest : List Char) :
    indentFrom false (between.intercalate pieces ++ rest) =
      (indentFrom false between).intercalate (pieces.map (indentFrom false)) ++ indentFrom false rest := by
  induction pieces with
  | nil => rfl
  | cons piece others ih =>
      have first := ends piece List.mem_cons_self
      cases others with
      | nil => rw [List.intercalate_singleton, List.map_singleton, List.intercalate_singleton, indentFrom_append first]
      | cons second others =>
          have later := ih fun other inside => ends other (List.mem_cons_of_mem _ inside)
          rw [List.intercalate_cons_cons, List.append_assoc, List.append_assoc, indentFrom_append first,
            indentFrom_append betweenEnds, later]
          simp only [List.map_cons, List.intercalate_cons_cons, List.append_assoc]

/-! ## Texts in double quotes -/

/-- The line ends that stand for themselves in the text of a header. -/
def separators : List Char := ['\u0085', '\u2028', '\u2029']

theorem escape_of_mem_separators (separates : c ∈ separators) : Json.escape c = [c] := by
  have known : ∀ c ∈ separators, Json.escape c = [c] := by decide
  exact known c separates

theorem isLineBreak_of_mem_separators (separates : c ∈ separators) : isLineBreak c = true := by
  have known : ∀ c ∈ separators, isLineBreak c = true := by decide
  exact known c separates

/-- The letters that are written for characters behind a backslash. -/
def letters : List (Char × Char) :=
  [('"', '"'), ('\\', '\\'), ('n', '\n'), ('r', '\r'), ('t', '\t'), ('b', '\x08'), ('f', '\x0c')]

/-- What is written for a character in double quotes: itself, the letter of an escape, or its number. -/
inductive Escaped (c : Char) : List Char → Prop
  | itself (noQuote : c ≠ '"') (noEscape : c ≠ '\\') (noControl : 32 ≤ c.toNat) : Escaped c [c]
  | letter {d : Char} (listed : (d, c) ∈ letters) : Escaped c ['\\', d]
  | number (control : c.toNat < 32) : Escaped c ('\\' :: 'u' :: Text.Quoted.hexDigits 4 c.toNat)

theorem escaped_escape (c : Char) : Escaped c (Json.escape c) := by
  unfold Json.escape
  split
  case h_8 noQuote noEscape _ _ _ _ _ =>
    split
    · next control => exact .number control
    · next noControl => exact .itself noQuote noEscape (Nat.le_of_not_lt noControl)
  all_goals exact .letter (by decide)

theorem Escaped.ne_nil {used : List Char} (escaped : Escaped c used) : used ≠ [] := by
  cases escaped <;> exact List.cons_ne_nil _ _

/-- No other character is written with a line end. -/
theorem Escaped.plain {used : List Char} (escaped : Escaped c used) (noSeparator : c ∉ separators) :
    ∀ d ∈ used, isLineBreak d = false := by
  cases escaped with
  | itself _ _ noControl =>
      intro d inside
      obtain rfl := List.mem_singleton.1 inside
      have apart : ∀ c ∈ separators, d.toNat ≠ c.toNat := fun c inside same =>
        noSeparator (Char.toNat_inj.1 same ▸ inside)
      have others : d.toNat ≠ 0x85 ∧ d.toNat ≠ 0x2028 ∧ d.toNat ≠ 0x2029 :=
        ⟨apart _ (.head _), apart _ (.tail _ (.head _)), apart _ (.tail _ (.tail _ (.head _)))⟩
      rw [Bool.eq_false_iff]
      simp only [isLineBreak, Text.inRanges, ne_eq, Bool.or_eq_true, Bool.and_eq_true, decide_eq_true_eq,
        Bool.false_eq_true, or_false]
      omega
  | letter listed =>
      have known : ∀ pair ∈ letters, ∀ d ∈ ['\\', pair.1], isLineBreak d = false := by decide
      exact known _ listed
  | number control =>
      have known : ∀ point < 32, ∀ d ∈ '\\' :: 'u' :: Text.Quoted.hexDigits 4 point, isLineBreak d = false := by decide
      exact known c.toNat control

/-- Whether a text stays on its line where it is written as a header. -/
def IsUnbroken (text : String) : Prop := ∀ c ∈ text.toList, c ∉ separators

theorem toList_quoted (text : String) :
    (Json.quoted text).toList = '"' :: (text.toList.flatMap Json.escape ++ ['"']) := by
  rw [Json.quoted, String.toList_ofList, List.cons_append]

/-! ## Headers -/

section

variable {headers : List (String × String)}

/-- A header as it is written on its line. -/
def headerChars (header : String × String) : List Char :=
  (Json.quoted header.1).toList ++ (": ".toList ++ (Json.quoted header.2).toList)

/-- A header behind the margin of its line. -/
def indentedHeader (header : String × String) : List Char :=
  indentFrom false (Json.quoted header.1).toList ++ (": ".toList ++ indentFrom false (Json.quoted header.2).toList)

theorem writeEntries_headers (headers : List (String × String)) (style : Json.Style) :
    Json.writeEntries style (headers.map fun header => (.text header.1, .text header.2)) =
      headers.map fun header => Json.quoted header.1 ++ ": " ++ Json.quoted header.2 := by
  induction headers with
  | nil => rfl
  | cons header rest ih =>
      rw [List.map_cons, Json.writeEntries, ih]
      rfl

theorem toList_object (some : headers ≠ []) : (TypeScript.object (headersValue headers)).toList =
    "\x7b\n  ".toList ++ (",\n  ".toList.intercalate (headers.map headerChars) ++ "\n\x7d".toList) := by
  have fields : headersValue headers = .map (headers.map fun header => (.text header.1, .text header.2)) := by
    rw [headersValue, Value.record, List.map_map]
    rfl
  have parts : (headers.map fun header => Json.quoted header.1 ++ ": " ++ Json.quoted header.2).map (·.toList) =
      headers.map headerChars := by
    rw [List.map_map]
    refine List.map_congr_left fun header _ => ?_
    rw [Function.comp_apply, String.toList_append, String.toList_append, List.append_assoc, headerChars]
  have inner : ("," ++ Json.margin 1).toList = ",\n  ".toList := by decide
  have opening : ("\x7b" ++ Json.margin 1).toList = "\x7b\n  ".toList := by decide
  have closing : (Json.margin 0 ++ "\x7d").toList = "\n\x7d".toList := by decide
  rw [TypeScript.object, Json.pretty, fields, Json.writeIn, writeEntries_headers, Json.enclose]
  · rw [String.append_assoc, String.toList_append, String.toList_append, opening, closing, String.toList_intercalate,
      parts, inner, List.append_assoc]
  · simpa using some

theorem endsInLine_quoted (before : List Char) (text : String) : EndsInLine (before ++ (Json.quoted text).toList) := by
  rw [toList_quoted, EndsInLine, ← List.cons_append, ← List.append_assoc, List.getLast?_concat]
  decide

theorem not_mem_quoted (text : String) : '\r' ∉ (Json.quoted text).toList := by
  have escaped (c : Char) : '\r' ∉ Json.escape c := by
    by_cases separates : c ∈ separators
    · rw [escape_of_mem_separators separates, List.mem_singleton]
      rintro rfl
      exact absurd separates (by decide)
    · exact fun inside => absurd ((escaped_escape c).plain separates _ inside) (by decide)
  rw [toList_quoted, List.mem_cons, List.mem_append, List.mem_singleton, List.mem_flatMap]
  rintro (quote | ⟨c, -, inside⟩ | quote)
  · exact absurd quote (by decide)
  · exact escaped c inside
  · exact absurd quote (by decide)

theorem not_mem_object (some : headers ≠ []) : '\r' ∉ (TypeScript.object (headersValue headers)).toList := by
  rw [toList_object some, List.mem_append, List.mem_append]
  rintro (first | inside | last)
  · exact absurd first (by decide)
  · rcases Text.mem_of_mem_intercalate inside with between | ⟨piece, listed, member⟩
    · exact absurd between (by decide)
    · obtain ⟨header, -, rfl⟩ := List.mem_map.1 listed
      rw [headerChars, List.mem_append, List.mem_append] at member
      rcases member with name | colon | text
      · exact not_mem_quoted _ name
      · exact absurd colon (by decide)
      · exact not_mem_quoted _ text
  · exact absurd last (by decide)

theorem indentFrom_headerChars (header : String × String) :
    indentFrom false (headerChars header) = indentedHeader header := by
  have ends := endsInLine_quoted [] header.1
  rw [List.nil_append] at ends
  rw [headerChars, indentFrom_append ends, indentFrom_append_plain (by decide), indentedHeader]

theorem toList_headers (some : headers ≠ []) : (indentRest (TypeScript.object (headersValue headers))).toList =
    "\x7b\n    ".toList ++ (",\n    ".toList.intercalate (headers.map indentedHeader) ++ "\n  \x7d".toList) := by
  have ends : ∀ piece ∈ headers.map headerChars, EndsInLine piece := by
    intro piece inside
    obtain ⟨header, -, rfl⟩ := List.mem_map.1 inside
    rw [headerChars, ← List.append_assoc]
    exact endsInLine_quoted _ header.2
  have indented : (headers.map headerChars).map (indentFrom false) = headers.map indentedHeader := by
    rw [List.map_map]
    refine List.map_congr_left fun header _ => ?_
    rw [Function.comp_apply, indentFrom_headerChars]
  have opens : indentFrom false "\x7b\n  ".toList = "\x7b\n    ".toList := by decide
  have parts : indentFrom false ",\n  ".toList = ",\n    ".toList := by decide
  have closes : indentFrom false "\n\x7d".toList = "\n  \x7d".toList := by decide
  rw [toList_indentRest (not_mem_object some), toList_object some, indentFrom_append (by decide),
    indentFrom_intercalate (by decide) ends, indented, opens, parts, closes]

/-- Each header is in the file as it is indented. -/
theorem exists_headers_of_mem {header : String × String} (known : header ∈ headers) : ∃ before after,
    (indentRest (TypeScript.object (headersValue headers))).toList = before ++ (indentedHeader header ++ after) := by
  have inside : indentedHeader header <:+: ",\n    ".toList.intercalate (headers.map indentedHeader) :=
    Text.infix_intercalate (List.mem_map_of_mem known)
  obtain ⟨before, after, whole⟩ := inside
  refine ⟨"\x7b\n    ".toList ++ before, after ++ "\n  \x7d".toList, ?_⟩
  rw [toList_headers (List.ne_nil_of_mem known), ← whole]
  simp only [List.append_assoc]

end

end QueryHooks.Render.IntegrationConfig
