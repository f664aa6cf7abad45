import QueryHooks.Naming.Names

/-!
The characters of generated names. Case tables lead from words to letters and to characters above
ASCII only, so no name holds a quote, a blank, a line break or any other mark of source text.
-/

namespace QueryHooks.Naming

open QueryHooks.Text

variable {c d : Char} {chars word : List Char}

/-- The characters that a generated name can have. -/
def isNameChar (c : Char) : Bool := isLetterOrAbove c || isAsciiDigit c || c == '_'

def IsName (chars : List Char) : Prop := ∀ c ∈ chars, isNameChar c = true

theorem IsName.nil : IsName [] := by
  intro c inside
  cases inside

theorem IsName.append {chars' : List Char} (first : IsName chars) (second : IsName chars') :
    IsName (chars ++ chars') := by
  intro c inside
  exact (List.mem_append.1 inside).elim (first c) (second c)

theorem IsName.not_mem (isName : IsName chars) (mark : isNameChar c = false) : c ∉ chars := by
  intro inside
  rw [isName c inside] at mark
  cases mark

/-- What holds of the 128 characters of ASCII, checked one by one, holds of each. -/
theorem forall_ascii {P : Char → Prop} (checked : ∀ point < 128, P (Char.ofNat point))
    (ascii : isAscii c = true) : P c := by
  have := checked c.toNat (of_decide_eq_true ascii)
  rwa [Char.ofNat_toNat] at this

theorem isAscii_of_le {last : Char} (below : c ≤ last) (ascii : isAscii last = true) : isAscii c = true :=
  decide_eq_true (Nat.lt_of_le_of_lt (Char.le_def.1 below) (of_decide_eq_true ascii))

theorem isNameChar_of_not_ascii (other : isAscii c = false) : isNameChar c = true := by
  rw [isNameChar, isLetterOrAbove, other]
  rfl

theorem isNameChar_of_isLetterOrAbove (letter : isLetterOrAbove c = true) : isNameChar c = true := by
  rw [isNameChar, letter]
  rfl

theorem isNameChar_of_isWordChar (isWord : isWordChar c = true) : isNameChar c = true := by
  cases ascii : isAscii c with
  | false => exact isNameChar_of_not_ascii ascii
  | true =>
      revert isWord
      exact forall_ascii (P := fun c => isWordChar c = true → isNameChar c = true) (by decide) ascii

theorem isName_upperOf (named : isNameChar c = true) : IsName (upperOf c) := by
  intro d image
  cases ascii : isAscii c with
  | false => exact isNameChar_of_isLetterOrAbove (isLetterOrAbove_of_mem_upperOf ascii image)
  | true =>
      revert named d
      exact forall_ascii (P := fun c => isNameChar c = true → ∀ d ∈ upperOf c, isNameChar d = true)
        (by decide) ascii

theorem isName_lowerOf (named : isNameChar c = true) : IsName (lowerOf c) := by
  intro d image
  cases ascii : isAscii c with
  | false => exact isNameChar_of_isLetterOrAbove (isLetterOrAbove_of_mem_lowerOf ascii image)
  | true =>
      revert named d
      exact forall_ascii (P := fun c => isNameChar c = true → ∀ d ∈ lowerOf c, isNameChar d = true)
        (by decide) ascii

theorem isName_lower (named : IsName chars) : IsName (lower chars) := by
  have after (before : List Char) : IsName (lowerAfter before chars) := by
    induction chars generalizing before with
    | nil => exact .nil
    | cons c rest ih =>
        rw [lowerAfter]
        refine IsName.append ?_ (ih (fun d later => named d (List.mem_cons_of_mem _ later)) _)
        split
        · intro d same
          rw [List.mem_singleton.1 same]
          split <;> rfl
        · exact isName_lowerOf (named c List.mem_cons_self)
  exact after []

theorem isName_capitalized (named : IsName word) : IsName (capitalized word) := by
  cases word with
  | nil => exact named
  | cons c rest =>
      exact (isName_upperOf (named c List.mem_cons_self)).append
        (isName_lower fun d later => named d (List.mem_cons_of_mem _ later))

theorem isName_laterWord (named : IsName word) : IsName (laterWord word) := by
  rw [laterWord]
  split
  · intro d inside
    rcases List.mem_cons.1 inside with rfl | later
    · rfl
    · exact isName_lower named d later
  · exact isName_capitalized named

theorem isName_words (inside : word ∈ words chars) : IsName word := by
  intro c within
  have flat : c ∈ (words chars).flatten := List.mem_flatten.2 ⟨word, inside, within⟩
  rw [flatten_words, List.mem_filter] at flat
  exact isNameChar_of_isWordChar flat.2

theorem isName_camelCaseChars (chars : List Char) : IsName (camelCaseChars chars) := by
  have named : ∀ word ∈ words chars, IsName word := fun _ inside => isName_words inside
  rw [camelCaseChars]
  revert named
  cases words chars with
  | nil => exact fun _ => .nil
  | cons first rest =>
      intro named
      refine (isName_lower (named first List.mem_cons_self)).append ?_
      intro c inside
      obtain ⟨word, later, within⟩ := List.mem_flatMap.1 inside
      exact isName_laterWord (named word (List.mem_cons_of_mem _ later)) c within

theorem isName_camelCase (text : String) : IsName (camelCase text).toList := by
  rw [camelCase, String.toList_ofList]
  exact isName_camelCaseChars text.toList

theorem isName_capitalizeFirst {text : String} (named : IsName text.toList) :
    IsName (capitalizeFirst text).toList := by
  rw [capitalizeFirst]
  split
  · exact .nil
  · next c rest whole =>
      rw [whole] at named
      rw [String.toList_ofList]
      exact (isName_upperOf (named c List.mem_cons_self)).append
        fun d later => named d (List.mem_cons_of_mem _ later)

theorem isName_tagKey (tag : String) : IsName (tagKey tag).toList := isName_camelCase tag

theorem isName_functionName (op : Api.Operation) : IsName (functionName op).toList := isName_camelCase op.id

theorem isName_hookName (op : Api.Operation) : IsName (hookName op).toList := by
  rw [hookName, String.toList_append]
  refine IsName.append ?_ (isName_capitalizeFirst (isName_functionName op))
  unfold IsName
  decide

end QueryHooks.Naming
