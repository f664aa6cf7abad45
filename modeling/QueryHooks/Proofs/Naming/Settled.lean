import Mathlib.Data.List.DropRight
import QueryHooks.Proofs.Naming.Images

/-!
Texts that are their own names. A name is read back into words by the capitals and underscores in it, so it is kept
exactly if each capital starts a word where it stands and each underscore is one that sets off a digit.
-/

namespace QueryHooks.Naming

open QueryHooks.Text

variable {c : Char} {chars : List Char}

/--
Whether what follows a character is written as a name goes on: a letter or digit is its own lower case unless it starts
a word, and nothing else is there but an underscore between a character and a digit.
-/
def isSettled (previous : Option Char) : List Char → Bool
  | [] => true
  | c :: rest =>
      (if isWordChar c then previous.any (fun p => startsWord p c rest.head?) || lowerOf c == [c]
        else c == '_' && previous.isSome && rest.head?.any isAsciiDigit) && isSettled (some c) rest

/-- What a name makes of the runs after its first word. -/
def laterWords (runs : List (List Char)) : List Char := (runs.filter (!·.isEmpty)).flatMap laterWord

theorem laterWords_cons (c : Char) (word : List Char) (runs : List (List Char)) :
    laterWords ((c :: word) :: runs) = laterWord (c :: word) ++ laterWords runs := rfl

theorem isWordChar_of_mem_runs {previous : Option Char} {word : List Char} (listed : word ∈ runs previous chars)
    (inside : c ∈ word) : isWordChar c = true := by
  have flat : c ∈ (runs previous chars).flatten := List.mem_flatten.2 ⟨word, listed, inside⟩
  rw [flatten_runs] at flat
  exact (List.mem_filter.1 flat).2

/-! ## Blanks around a text -/

theorem startsWord_of_isBlank (blank : isBlank c = true) (d : Char) (next : Option Char) :
    startsWord c d next = false := by
  obtain ⟨noWord, notUpper, notLower⟩ := not_word_of_isBlank blank
  rw [isWordChar, Bool.or_eq_false_iff] at noWord
  simp [startsWord, notUpper, notLower, noWord.2]

theorem runs_of_isBlank (blank : isBlank c = true) (chars : List Char) :
    runs (some c) chars = runs none chars := by
  cases chars with
  | nil => rfl
  | cons d rest => simp only [runs, Option.any_some, startsWord_of_isBlank blank, Option.any_none]

theorem runs_cons_of_isBlank (blank : isBlank c = true) (previous : Option Char) (chars : List Char) :
    runs previous (c :: chars) = [] :: runs none chars := by
  obtain ⟨noWord, notUpper, -⟩ := not_word_of_isBlank blank
  obtain ⟨first, later, whole⟩ := exists_runs (some c) chars
  have noStart (p : Char) : startsWord p c chars.head? = false := by simp [startsWord, notUpper]
  have never : (previous.any fun p => startsWord p c chars.head?) = false := by
    cases previous with
    | none => rfl
    | some p => exact noStart p
  rw [runs_cons _ whole, never, noWord, ← whole, runs_of_isBlank blank]
  rfl

theorem runs_append_of_isBlank (blank : isBlank c = true) (previous : Option Char) (chars : List Char) :
    runs previous (chars ++ [c]) = runs previous chars ++ [[]] := by
  induction chars generalizing previous with
  | nil => exact runs_cons_of_isBlank blank previous []
  | cons d rest ih =>
      have sameStart (p : Char) : startsWord p d (rest ++ [c]).head? = startsWord p d rest.head? := by
        cases rest with
        | nil => simp [startsWord, (not_word_of_isBlank blank).2.2]
        | cons e others => rfl
      obtain ⟨first, later, whole⟩ := exists_runs (some d) rest
      have longer : runs (some d) (rest ++ [c]) = first :: (later ++ [[]]) := by rw [ih, whole]; rfl
      rw [List.cons_append, runs_cons _ longer, runs_cons _ whole]
      simp only [sameStart, List.append_assoc]
      split <;> split <;> rfl

/-- Blanks at the ends of a text change nothing in its words. -/
theorem words_eq (chars : List Char) : words chars = (runs none chars).filter (!·.isEmpty) := by
  have ending (chars : List Char) : (runs none (chars.rdropWhile isBlank)).filter (!·.isEmpty) =
      (runs none chars).filter (!·.isEmpty) := by
    induction chars using List.reverseRecOn with
    | nil => rfl
    | append_singleton chars c ih =>
        rw [List.rdropWhile_concat]
        split
        · next blank => rw [ih, runs_append_of_isBlank blank, List.filter_append]; simp
        · rfl
  have start : (runs none (chars.dropWhile isBlank)).filter (!·.isEmpty) =
      (runs none chars).filter (!·.isEmpty) := by
    induction chars with
    | nil => rfl
    | cons c rest ih =>
        cases blank : isBlank c with
        | true => rw [List.dropWhile_cons_of_pos blank, ih, runs_cons_of_isBlank blank]; rfl
        | false => rw [List.dropWhile_cons_of_neg (by simp [blank])]
  exact (ending (chars.dropWhile isBlank)).trans start

/-- Every letter and digit of a text is in one of its words. -/
theorem flatten_words_eq (chars : List Char) : (words chars).flatten = chars.filter isWordChar := by
  rw [words_eq, List.flatten_filter_not_isEmpty, flatten_runs]

/-! ## A name read again -/

theorem lowerOf_of_isAsciiDigit (digit : isAsciiDigit c = true) :
    lowerOf c = [c] ∧ isWordChar c = true ∧ isUpper c = false := by
  have ascii : isAscii c = true := by
    simp only [isAsciiDigit, Bool.and_eq_true, decide_eq_true_eq] at digit
    exact isAscii_of_le digit.2 (by decide)
  revert digit
  exact forall_ascii (P := fun c => isAsciiDigit c = true →
    lowerOf c = [c] ∧ isWordChar c = true ∧ isUpper c = false) (by decide) ascii

/-- Only what is its own lower case goes on as it is, and what comes after it then does so too. -/
theorem lowerAfter_append_eq_cons_iff (before : List Char) (c : Char) (word tail rest : List Char) :
    lowerAfter before (c :: word) ++ tail = c :: rest ↔
      lowerOf c = [c] ∧ lowerAfter (c :: before) word ++ tail = rest := by
  obtain ⟨first, more, whole, -, starts, single⟩ := exists_lowerAfter before c word
  rw [whole, List.cons_append, List.cons.injEq]
  constructor
  · rintro ⟨same, others⟩
    obtain ⟨fixed, rfl⟩ := single same
    exact ⟨fixed, others⟩
  · rintro ⟨fixed, others⟩
    obtain rfl := starts fixed
    obtain ⟨-, rfl⟩ := single rfl
    exact ⟨rfl, others⟩

theorem lower_cons_of_digit (digit : isAsciiDigit c = true) (word : List Char) :
    lower (c :: word) = c :: lowerAfter [c] word := by
  have fixed := (lowerAfter_append_eq_cons_iff [] c word [] (lowerAfter [c] word ++ [])).2
    ⟨(lowerOf_of_isAsciiDigit digit).1, rfl⟩
  rwa [List.append_nil, List.append_nil] at fixed

theorem laterWord_of_isUpper (upper : isUpper c = true) (word : List Char) :
    laterWord (c :: word) = c :: lower word := by
  have other : isAsciiDigit c = false := by
    cases digit : isAsciiDigit c with
    | false => rfl
    | true => exact absurd upper (by simp [(lowerOf_of_isAsciiDigit digit).2.2])
  rw [laterWord_of_letter other, upperOf_of_isUpper upper]
  rfl

/-- After a first word, a name goes on with a letter or digit, or with an underscore that sets off a digit. -/
theorem laterWords_cases {runs : List (List Char)} (isWord : ∀ word ∈ runs, ∀ c ∈ word, isWordChar c = true) :
    laterWords runs = [] ∨ (∃ d more, laterWords runs = d :: more ∧ isWordChar d = true) ∨
      ∃ d more, laterWords runs = '_' :: d :: more ∧ isAsciiDigit d = true := by
  induction runs with
  | nil => exact .inl rfl
  | cons word others ih =>
      cases word with
      | nil => exact ih fun word later => isWord word (List.mem_cons_of_mem _ later)
      | cons d rest =>
          rw [laterWords_cons]
          cases digit : isAsciiDigit d with
          | true =>
              rw [laterWord_of_digit digit, lower_cons_of_digit digit]
              exact .inr (.inr ⟨d, _, rfl, digit⟩)
          | false =>
              obtain ⟨first, more, whole, isFirst⟩ :=
                exists_upperOf (isWord _ List.mem_cons_self d List.mem_cons_self)
              rw [laterWord_of_letter digit, whole]
              exact .inr (.inl ⟨first, _, rfl, isFirst⟩)

/-- A digit right after a character that is in no word starts a run. -/
theorem exists_runs_of_digit {previous : Option Char} {first : List Char} {later : List (List Char)}
    (whole : runs previous chars = first :: later) (digit : chars.head?.any isAsciiDigit = true) :
    ∃ d word, first = d :: word ∧ chars.head? = some d ∧ isAsciiDigit d = true := by
  cases chars with
  | nil => cases digit
  | cons d rest =>
      obtain ⟨-, isWord, notUpper⟩ := lowerOf_of_isAsciiDigit (c := d) digit
      have never : (previous.any fun p => startsWord p d rest.head?) = false := by
        cases previous <;> simp [startsWord, notUpper]
      obtain ⟨first', later', whole'⟩ := exists_runs (some d) rest
      rw [runs_cons _ whole', never, isWord] at whole
      obtain ⟨rfl, -⟩ := List.cons.inj whole
      exact ⟨d, first', rfl, rfl, digit⟩

/--
What follows a character is written as the name goes on exactly if it is settled. The induction is on what follows; the
first of its runs goes on with the word of the character, whatever is before that.
-/
theorem continues_iff {p : Char} {rest first : List Char} {later : List (List Char)}
    (whole : runs (some p) rest = first :: later) (before : List Char) :
    lowerAfter before first ++ laterWords later = rest ↔ isSettled (some p) rest = true := by
  induction rest generalizing p first later before with
  | nil =>
      obtain ⟨rfl, rfl⟩ := List.cons.inj whole
      simp [isSettled, lowerAfter, laterWords]
  | cons c rest ih =>
      obtain ⟨word, others, after⟩ := exists_runs (some c) rest
      rw [runs_cons _ after, Option.any_some] at whole
      rw [isSettled, Option.any_some, Option.isSome_some, Bool.and_true]
      cases isWord : isWordChar c with
      | true =>
          rw [isWord, if_pos rfl] at whole
          rw [if_pos rfl]
          cases starts : startsWord p c rest.head? with
          | true =>
              -- A capital that starts a word is written as it is.
              rw [starts, if_pos rfl, List.singleton_append] at whole
              obtain ⟨rfl, rfl⟩ := List.cons.inj whole
              rw [startsWord, Bool.and_eq_true] at starts
              rw [laterWords_cons, laterWord_of_isUpper starts.1, Bool.true_or, Bool.true_and, ← ih after []]
              simp [lowerAfter, lower]
          | false =>
              rw [starts] at whole
              obtain ⟨rfl, rfl⟩ := List.cons.inj whole
              rw [lowerAfter_append_eq_cons_iff, ih after, Bool.false_or, Bool.and_eq_true, beq_iff_eq]
      | false =>
          -- What is in no word is written as an underscore, and only if a digit comes next.
          have splits : first = [] ∧ laterWords later = laterWords (word :: others) := by
            rw [isWord] at whole
            split at whole <;> obtain ⟨rfl, rfl⟩ := List.cons.inj whole <;> exact ⟨rfl, rfl⟩
          obtain ⟨rfl, same⟩ := splits
          rw [same, lowerAfter, List.nil_append, if_neg (by decide), Bool.and_eq_true, Bool.and_eq_true,
            beq_iff_eq]
          have onlyDigit (goesOn : laterWords (word :: others) = c :: rest) :
              c = '_' ∧ rest.head?.any isAsciiDigit = true := by
            have wordChars : ∀ w ∈ word :: others, ∀ d ∈ w, isWordChar d = true := fun w listed d inside =>
              isWordChar_of_mem_runs (after ▸ listed) inside
            rcases laterWords_cases wordChars with none | ⟨d, more, written, isFirst⟩ |
              ⟨d, more, written, digit⟩
            · rw [none] at goesOn
              cases goesOn
            · rw [written] at goesOn
              rw [(List.cons.inj goesOn).1, isWord] at isFirst
              cases isFirst
            · rw [written] at goesOn
              obtain ⟨rfl, rfl⟩ := List.cons.inj goesOn
              exact ⟨rfl, digit⟩
          have setOff (digit : rest.head?.any isAsciiDigit = true) :
              laterWords (word :: others) = '_' :: (lowerAfter [] word ++ laterWords others) := by
            obtain ⟨d, tail, rfl, -, isDigit⟩ := exists_runs_of_digit after digit
            rw [laterWords_cons, laterWord_of_digit isDigit]
            rfl
          constructor
          · intro goesOn
            obtain ⟨rfl, digit⟩ := onlyDigit goesOn
            rw [setOff digit, List.cons.injEq] at goesOn
            exact ⟨⟨rfl, digit⟩, (ih after []).1 goesOn.2⟩
          · rintro ⟨⟨rfl, digit⟩, settled⟩
            rw [setOff digit, (ih after []).2 settled]

theorem joinWords_cases {runs : List (List Char)} (isWord : ∀ word ∈ runs, ∀ c ∈ word, isWordChar c = true) :
    joinWords (runs.filter (!·.isEmpty)) = [] ∨
      ∃ d more, joinWords (runs.filter (!·.isEmpty)) = d :: more ∧ isWordChar d = true := by
  induction runs with
  | nil => exact .inl rfl
  | cons word others ih =>
      cases word with
      | nil => exact ih fun word later => isWord word (List.mem_cons_of_mem _ later)
      | cons c rest =>
          obtain ⟨first, more, whole, staysWord, -⟩ := exists_lowerAfter [] c rest
          rw [List.filter_cons_of_pos rfl, joinWords, lower, whole]
          exact .inr ⟨first, _, rfl, staysWord (isWord _ List.mem_cons_self c List.mem_cons_self)⟩

/-- A text is its own name exactly if it is settled. -/
theorem camelCaseChars_eq_self_iff (chars : List Char) :
    camelCaseChars chars = chars ↔ isSettled none chars = true := by
  rw [camelCaseChars, words_eq]
  cases chars with
  | nil => exact iff_of_true rfl rfl
  | cons c rest =>
      obtain ⟨word, others, after⟩ := exists_runs (some c) rest
      have whole := runs_cons none after
      rw [Option.any_none, if_neg (by decide), List.nil_append] at whole
      rw [isSettled, Option.any_none, Bool.false_or, Option.isSome_none, Bool.and_false, Bool.false_and]
      cases isWord : isWordChar c with
      | true =>
          rw [whole, isWord, if_pos rfl, if_pos rfl, List.filter_cons_of_pos rfl, joinWords, lower, Bool.and_eq_true,
            beq_iff_eq, ← continues_iff after [c]]
          exact lowerAfter_append_eq_cons_iff [] c word (laterWords others) rest
      | false =>
          rw [if_neg (by decide), Bool.false_and]
          refine iff_of_false (fun same => ?_) (by decide)
          rcases joinWords_cases (fun w listed d inside => isWordChar_of_mem_runs listed inside) with
            none | ⟨d, more, written, isFirst⟩
          · rw [none] at same
            cases same
          · rw [written] at same
            rw [(List.cons.inj same).1, isWord] at isFirst
            cases isFirst

theorem camelCase_eq_self_iff (text : String) : camelCase text = text ↔ isSettled none text.toList = true := by
  rw [← camelCaseChars_eq_self_iff, ← String.toList_inj, camelCase, String.toList_ofList]

end QueryHooks.Naming
