import Mathlib.Data.List.Basic
import QueryHooks.TypeScript.Literal

/-!
Texts in single quotes. Three replacements in turn make the inside of a literal, and it is read back by undoing one
escape after the other, up to the first quote that is not escaped, whatever stands behind the literal.
-/

namespace QueryHooks.TypeScript

namespace StringLiteral

variable {c quote : Char} {chars after : List Char}

/-- Characters with others in the place of each occurrence of one. -/
def replace (c : Char) (others chars : List Char) : List Char := chars.flatMap fun d => if d = c then others else [d]

/-- What is written between quotes: backslashes are doubled first, then quotes and then line feeds are escaped. -/
def replaceAll (chars : List Char) : List Char :=
  replace '\n' ['\\', 'n'] (replace '\x27' ['\\', '\x27'] (replace '\\' ['\\', '\\'] chars))

/-- What an escape stands for, known by the character after the backslash. -/
def meaning (c : Char) : Char := if c = 'n' then '\n' else c

/-- What is read after an opening quote, and the text behind the quote that closes it. -/
def readInside? (quote : Char) : List Char → Option (List Char × List Char)
  | [] => none
  | ['\\'] => none
  | '\\' :: c :: rest => (readInside? quote rest).map fun (inside, after) => (meaning c :: inside, after)
  | c :: rest =>
      if c = quote then some ([], rest)
      else (readInside? quote rest).map fun (inside, after) => (c :: inside, after)

/-- The text of the literal in such quotes that a source text starts with, and what stands behind it. -/
def read? (quote : Char) : List Char → Option (List Char × List Char)
  | [] => none
  | c :: rest => if c = quote then readInside? quote rest else none

/-- What stands behind the literal that a source text starts with. -/
def behind? (quote : Char) (chars : List Char) : Option (List Char) := (read? quote chars).map (·.2)

/-! ## What is written -/

theorem escape_of_plain (noEscape : c ≠ '\\') (noQuote : c ≠ '\x27') (noBreak : c ≠ '\n') : escape c = [c] := by
  unfold escape
  split <;> first | contradiction | rfl

/-- A character is written by an escape that stands for it, or for itself. -/
theorem escape_cases (c : Char) :
    (∃ d, d ≠ '\n' ∧ escape c = ['\\', d] ∧ meaning d = c) ∨
      escape c = [c] ∧ c ≠ '\\' ∧ c ≠ '\x27' ∧ c ≠ '\n' := by
  by_cases isEscape : c = '\\'
  · subst isEscape
    exact .inl ⟨'\\', by decide, rfl, by decide⟩
  by_cases isQuote : c = '\x27'
  · subst isQuote
    exact .inl ⟨'\x27', by decide, rfl, by decide⟩
  by_cases isBreak : c = '\n'
  · subst isBreak
    exact .inl ⟨'n', by decide, rfl, by decide⟩
  exact .inr ⟨escape_of_plain isEscape isQuote isBreak, isEscape, isQuote, isBreak⟩

/-- Later replacements change nothing that an earlier one has written. -/
theorem flatMap_escape_eq (chars : List Char) : chars.flatMap escape = replaceAll chars := by
  rw [replaceAll, replace, replace, replace, List.flatMap_assoc, List.flatMap_assoc]
  refine List.flatMap_congr fun c _ => ?_
  by_cases isEscape : c = '\\'
  · subst isEscape
    decide
  by_cases isQuote : c = '\x27'
  · subst isQuote
    decide
  by_cases isBreak : c = '\n'
  · subst isBreak
    decide
  rw [escape_of_plain isEscape isQuote isBreak, if_neg isEscape, List.flatMap_singleton, if_neg isQuote,
    List.flatMap_singleton, if_neg isBreak]

theorem toList_string (text : String) :
    (string text).toList = '\x27' :: (text.toList.flatMap escape ++ ['\x27']) := by
  rw [string, String.toList_ofList, stringChars, List.cons_append]

theorem not_mem_string (text : String) : '\n' ∉ (string text).toList := by
  have inside (c : Char) : '\n' ∉ escape c := by
    rcases escape_cases c with ⟨d, noBreak, written, -⟩ | ⟨written, -, -, noBreak⟩
    · rw [written]
      simpa using noBreak.symm
    · rw [written]
      simpa using noBreak.symm
  rw [toList_string, List.mem_cons, List.mem_append, List.mem_singleton, List.mem_flatMap]
  rintro (quote | ⟨c, -, here⟩ | quote)
  · exact absurd quote (by decide)
  · exact inside c here
  · exact absurd quote (by decide)

/-! ## What is read -/

theorem readInside?_plain (noEscape : c ≠ '\\') (noQuote : c ≠ quote) (rest : List Char) :
    readInside? quote (c :: rest) = (readInside? quote rest).map fun (inside, after) => (c :: inside, after) := by
  rw [readInside?.eq_4 quote c rest (fun same _ => noEscape same) (fun _ _ same _ => noEscape same), if_neg noQuote]

theorem readInside?_escape (chars after : List Char) :
    readInside? '\x27' (chars.flatMap escape ++ '\x27' :: after) = some (chars, after) := by
  induction chars with
  | nil => rfl
  | cons c rest ih =>
      rw [List.flatMap_cons, List.append_assoc]
      rcases escape_cases c with ⟨d, -, written, means⟩ | ⟨written, noEscape, noQuote, -⟩
      · rw [written, List.cons_append, List.singleton_append, readInside?, ih, Option.map_some, means]
      · rw [written, List.singleton_append, readInside?_plain noEscape noQuote, ih, Option.map_some]

theorem read?_string (text : String) (after : List Char) :
    read? '\x27' ((string text).toList ++ after) = some (text.toList, after) := by
  rw [toList_string, List.cons_append, List.append_assoc, List.singleton_append, read?, if_pos rfl, readInside?_escape]

/-! ## Where a literal ends -/

/-- Text inside a literal that does not end it, and that no escape goes on behind. -/
def Passes (quote : Char) (used : List Char) : Prop :=
  ∀ rest, (readInside? quote (used ++ rest)).map (·.2) = (readInside? quote rest).map (·.2)

theorem Passes.append {used used' : List Char} (first : Passes quote used) (second : Passes quote used') :
    Passes quote (used ++ used') := fun rest => by
  rw [List.append_assoc, first, second]

theorem passes_plain {used : List Char} (plain : ∀ c ∈ used, c ≠ '\\' ∧ c ≠ quote) : Passes quote used := by
  intro rest
  induction used with
  | nil => rfl
  | cons c more ih =>
      obtain ⟨noEscape, noQuote⟩ := plain c List.mem_cons_self
      rw [List.cons_append, readInside?_plain noEscape noQuote, Option.map_map,
        ← ih fun d inside => plain d (List.mem_cons_of_mem _ inside)]
      rfl

theorem passes_escape (quote c : Char) : Passes quote ['\\', c] := fun rest => by
  rw [List.cons_append, List.singleton_append, readInside?, Option.map_map]
  rfl

end StringLiteral

end QueryHooks.TypeScript
