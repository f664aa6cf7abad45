import QueryHooks.Proofs.Naming.Pieces
import QueryHooks.Proofs.Naming.Settled

/-!
The name of a name, from the words of the text. A word that is a letter alone is written as a capital, which hides where
the next word starts unless a small letter follows there.
-/

namespace QueryHooks.Naming

open QueryHooks.Text

variable {c p : Char} {chars word : List Char}

/-- Whether a word is a letter alone. -/
def isLone : List Char → Bool
  | [c] => !isAsciiDigit c
  | _ => false

/-- Whether a word starts with a letter that no other letter of it follows. -/
def isBare : List Char → Bool
  | [] => false
  | c :: rest => !isAsciiDigit c && rest.head?.all isAsciiDigit

/-- Whether a letter alone is followed by a word whose start then cannot be told. -/
def runsTogether : List (List Char) → Bool
  | word :: next :: rest => (isLone word && isBare next) || runsTogether (next :: rest)
  | _ => false

theorem runsTogether_cons (word : List Char) (rest : List (List Char)) :
    runsTogether (word :: rest) = ((isLone word && rest.head?.any isBare) || runsTogether rest) := by
  cases rest with
  | nil => simp [runsTogether]
  | cons next others => rfl

/-! ## Small letters and digits -/

/-- Letters and digits of ASCII that are their own lower case. -/
def isSmall (c : Char) : Bool := isAsciiLower c || isAsciiDigit c

theorem forall_small {P : Char → Prop} (checked : ∀ point < 128, isSmall (Char.ofNat point) = true →
    P (Char.ofNat point)) (small : isSmall c = true) : P c := by
  have ascii : isAscii c = true := by
    simp only [isSmall, isAsciiLower, isAsciiDigit, Bool.or_eq_true, Bool.and_eq_true, decide_eq_true_eq] at small
    rcases small with lower | digit
    · exact isAscii_of_le lower.2 (by decide)
    · exact isAscii_of_le digit.2 (by decide)
  exact @forall_ascii c (fun c => isSmall c = true → P c) checked ascii small

theorem isPlain_of_isSmall (small : isSmall c = true) : isPlain c = true ∧ isUpper c = false ∧
    isWordChar c = true ∧ lowerOf c = [c] :=
  forall_small (P := fun c => isPlain c = true ∧ isUpper c = false ∧ isWordChar c = true ∧ lowerOf c = [c])
    (by decide) small

theorem exists_small (plain : isPlain c = true) :
    ∃ d, lowerOf c = [d] ∧ isSmall d = true ∧ isLower d = !isAsciiDigit c := by
  have single : (match lowerOf c with
      | [d] => isSmall d && isLower d == !isAsciiDigit c
      | _ => false) = true :=
    forall_plain (P := fun c => (match lowerOf c with
      | [d] => isSmall d && isLower d == !isAsciiDigit c
      | _ => false) = true) (by decide) plain
  split at single
  · next d only =>
      rw [Bool.and_eq_true, beq_iff_eq] at single
      exact ⟨d, only, single⟩
  · cases single

theorem exists_capital (plain : isPlain c = true) (letter : isAsciiDigit c = false) :
    ∃ u, upperOf c = [u] ∧ isPlain u = true ∧ isUpper u = true ∧ isLower u = false ∧ isWordChar u = true ∧
      (lowerOf u == [u]) = false := by
  have single : isAsciiDigit c = false → (match upperOf c with
      | [u] => isPlain u && isUpper u && !isLower u && isWordChar u && !(lowerOf u == [u])
      | _ => false) = true :=
    forall_plain (P := fun c => isAsciiDigit c = false → (match upperOf c with
      | [u] => isPlain u && isUpper u && !isLower u && isWordChar u && !(lowerOf u == [u])
      | _ => false) = true) (by decide) plain
  have here := single letter
  split at here
  · next u only =>
      simp only [Bool.and_eq_true, Bool.not_eq_true'] at here
      obtain ⟨⟨⟨⟨isOne, upper⟩, notLower⟩, isWord⟩, moves⟩ := here
      exact ⟨u, only, isOne, upper, notLower, isWord, moves⟩
  · cases here

theorem small_of_mem_lowerAfter (plain : ∀ c ∈ chars, isPlain c = true) (before : List Char) :
    ∀ d ∈ lowerAfter before chars, isSmall d = true := by
  induction chars generalizing before with
  | nil =>
      intro d impossible
      cases impossible
  | cons c rest ih =>
      obtain ⟨d, only, small, -⟩ := exists_small (plain c List.mem_cons_self)
      rw [lower_cons_plain (plain c List.mem_cons_self), only]
      intro e inside
      rcases List.mem_cons.1 inside with rfl | later
      · exact small
      · exact ih (fun f within => plain f (List.mem_cons_of_mem _ within)) _ e later

theorem isSettled_append_of_small (small : ∀ c ∈ chars, isSmall c = true) (previous : Option Char)
    (tail : List Char) :
    isSettled previous (chars ++ tail) = isSettled (chars.getLast?.or previous) tail := by
  induction chars generalizing previous with
  | nil => rfl
  | cons c rest ih =>
      obtain ⟨-, -, isWord, fixed⟩ := isPlain_of_isSmall (small c List.mem_cons_self)
      rw [List.cons_append, isSettled, isWord, if_pos rfl, beq_iff_eq.2 fixed, Bool.or_true, Bool.true_and,
        ih fun d later => small d (List.mem_cons_of_mem _ later)]
      cases rest with
      | nil => rfl
      | cons d others => rw [List.getLast?_cons_cons, List.getLast?_cons, Option.some_or, Option.some_or]

/-! ## Word after word -/

/-- What is written of later words starts with no small letter. -/
theorem not_lower_head_laterWords {later : List (List Char)}
    (plain : ∀ word ∈ later, word ≠ [] ∧ ∀ c ∈ word, isPlain c = true) :
    (later.flatMap laterWord).head?.any isLower = false := by
  cases later with
  | nil => rfl
  | cons word rest =>
      obtain ⟨nonEmpty, isOne⟩ := plain word List.mem_cons_self
      cases word with
      | nil => exact absurd rfl nonEmpty
      | cons c others =>
          rw [List.flatMap_cons]
          cases digit : isAsciiDigit c with
          | true =>
              rw [laterWord_of_digit digit]
              rfl
          | false =>
              obtain ⟨u, only, -, -, notLower, -⟩ := exists_capital (isOne c List.mem_cons_self) digit
              rw [laterWord_of_letter digit, only]
              exact notLower

theorem startsWord_of_plain {u : Char} (isOne : isPlain p = true) (upper : isUpper u = true) (next : Option Char) :
    startsWord p u next = (!isUpper p || next.any isLower) := by
  have other : (isLower p || isDigit p) = !isUpper p :=
    forall_plain (P := fun p => (isLower p || isDigit p) = !isUpper p) (by decide) isOne
  rw [startsWord, upper, other, Bool.true_and]
  cases isUpper p <;> rfl

/-- The last of small letters and digits, if there are any, and what comes before them otherwise. -/
theorem exists_last (small : ∀ c ∈ chars, isSmall c = true) (previous : Char) :
    ∃ last, chars.getLast?.or (some previous) = some last ∧ (chars ≠ [] → isSmall last = true) ∧
      (chars = [] → last = previous) := by
  cases ending : chars.getLast? with
  | none =>
      have empty := List.getLast?_eq_none_iff.1 ending
      exact ⟨previous, rfl, fun nonEmpty => absurd empty nonEmpty, fun _ => rfl⟩
  | some last =>
      refine ⟨last, rfl, fun _ => small last (List.mem_of_getLast? ending), fun empty => ?_⟩
      rw [empty] at ending
      cases ending

/--
One later word: it is settled unless it is bare and a capital comes right before it; then what comes next is settled or
not after the last character of the word, which is a capital only if the word is a letter alone.
-/
theorem isSettled_laterWord (isOne : isPlain p = true) (nonEmpty : word ≠ [])
    (plain : ∀ c ∈ word, isPlain c = true) {tail : List Char} (apart : tail.head?.any isLower = false) :
    ∃ last, isPlain last = true ∧ isUpper last = isLone word ∧
      isSettled (some p) (laterWord word ++ tail) =
        (!(isUpper p && isBare word) && isSettled (some last) tail) := by
  cases word with
  | nil => exact absurd rfl nonEmpty
  | cons c others =>
      have small : ∀ d ∈ lower others, isSmall d = true :=
        small_of_mem_lowerAfter (fun d later => plain d (List.mem_cons_of_mem _ later)) []
      cases digit : isAsciiDigit c with
      | true =>
          have within : ∀ d ∈ c :: lowerAfter [c] others, isSmall d = true := by
            intro d inside
            rcases List.mem_cons.1 inside with rfl | later
            · rw [isSmall, digit, Bool.or_true]
            · exact small_of_mem_lowerAfter (fun e after => plain e (List.mem_cons_of_mem _ after)) _ d later
          obtain ⟨last, ending, isLast, -⟩ := exists_last within '_'
          obtain ⟨isOneToo, notUpper, -⟩ := isPlain_of_isSmall (isLast (List.cons_ne_nil _ _))
          refine ⟨last, isOneToo, ?_, ?_⟩
          · rw [notUpper]
            cases others <;> simp [isLone, digit]
          · have underscore : isWordChar '_' = false := by decide
            rw [laterWord_of_digit digit, lower_cons_of_digit digit, List.cons_append, isSettled, underscore,
              isSettled_append_of_small within, ending]
            simp [isBare, digit]
      | false =>
          obtain ⟨u, only, isCapital, upper, -, isWord, moves⟩ := exists_capital (plain c List.mem_cons_self) digit
          obtain ⟨last, ending, isLast, alone⟩ := exists_last small u
          have written : laterWord (c :: others) = u :: lower others := by
            rw [laterWord_of_letter digit, only]
            rfl
          -- The letter right after the capital is small unless the word is bare.
          have next : (lower others ++ tail).head?.any isLower = !isBare (c :: others) := by
            rw [isBare, digit]
            cases others with
            | nil => simpa [lower, lowerAfter] using apart
            | cons d rest =>
                have isNext := plain d (List.mem_cons_of_mem _ List.mem_cons_self)
                obtain ⟨e, onlyNext, -, lower⟩ := exists_small isNext
                rw [Text.lower, lower_cons_plain isNext, onlyNext]
                simpa using lower
          have first : isSettled (some p) (laterWord (c :: others) ++ tail) =
              (!(isUpper p && isBare (c :: others)) && isSettled (some last) tail) := by
            rw [written, List.cons_append, isSettled, isWord, if_pos rfl, Option.any_some, moves, Bool.or_false,
              startsWord_of_plain isOne upper, next, Bool.not_and, isSettled_append_of_small small, ending]
          cases others with
          | nil =>
              obtain rfl := alone rfl
              exact ⟨last, isCapital, by rw [upper, isLone, digit]; rfl, first⟩
          | cons d rest =>
              have goesOn : lower (d :: rest) ≠ [] := by
                obtain ⟨e, onlyNext, -⟩ := exists_small (plain d (List.mem_cons_of_mem _ List.mem_cons_self))
                rw [lower, lower_cons_plain (plain d (List.mem_cons_of_mem _ List.mem_cons_self)), onlyNext]
                exact List.cons_ne_nil _ _
              obtain ⟨isOneToo, notUpper, -⟩ := isPlain_of_isSmall (isLast goesOn)
              exact ⟨last, isOneToo, notUpper, first⟩

theorem isSettled_laterWords {later : List (List Char)} (isOne : isPlain p = true)
    (plain : ∀ word ∈ later, word ≠ [] ∧ ∀ c ∈ word, isPlain c = true) :
    isSettled (some p) (later.flatMap laterWord) =
      (!(isUpper p && later.head?.any isBare) && !runsTogether later) := by
  induction later generalizing p with
  | nil => simp [isSettled, runsTogether]
  | cons word rest ih =>
      obtain ⟨nonEmpty, plainWord⟩ := plain word List.mem_cons_self
      have plainRest : ∀ w ∈ rest, w ≠ [] ∧ ∀ c ∈ w, isPlain c = true := fun w inside =>
        plain w (List.mem_cons_of_mem _ inside)
      obtain ⟨last, isLast, upper, settled⟩ :=
        isSettled_laterWord isOne nonEmpty plainWord (not_lower_head_laterWords plainRest)
      rw [List.flatMap_cons, settled, ih isLast plainRest, upper, runsTogether_cons, List.head?_cons,
        Option.any_some, Bool.not_or]

/-- The name of an ASCII text is kept exactly if no letter alone, after the first word, runs into the next word. -/
theorem camelCase_camelCase_eq_iff {text : String}
    (ascii : ∀ c ∈ text.toList, isWordChar c = true → isAscii c = true) :
    camelCase (camelCase text) = camelCase text ↔ runsTogether (words text.toList).tail = false := by
  have plain : ∀ word ∈ words text.toList, word ≠ [] ∧ ∀ c ∈ word, isPlain c = true := fun _ inside =>
    plain_of_mem_words ascii inside
  rw [camelCase_eq_self_iff, camelCase, String.toList_ofList, camelCaseChars]
  revert plain
  cases words text.toList with
  | nil => exact fun _ => iff_of_true rfl rfl
  | cons first later =>
      intro plain
      obtain ⟨nonEmpty, plainFirst⟩ := plain first List.mem_cons_self
      have small := small_of_mem_lowerAfter plainFirst []
      rw [joinWords, lower, isSettled_append_of_small small, List.tail_cons]
      -- The first word is in small letters and settled; how it ends is all that the later words depend on.
      cases ending : (lowerAfter [] first).getLast? with
      | none =>
          cases first with
          | nil => exact absurd rfl nonEmpty
          | cons c rest =>
              obtain ⟨d, more, whole, -⟩ := exists_lowerAfter [] c rest
              rw [whole] at ending
              cases List.getLast?_eq_none_iff.1 ending
      | some last =>
          obtain ⟨isLast, notUpper, -⟩ := isPlain_of_isSmall (small last (List.mem_of_getLast? ending))
          rw [Option.some_or, isSettled_laterWords isLast fun word inside => plain word (List.mem_cons_of_mem _ inside),
            notUpper, Bool.false_and, Bool.not_false, Bool.true_and, Bool.not_eq_true']

/-- The name of a name is another one where the start of a word is lost in it. -/
theorem exists_camelCase_camelCase_ne : ∃ text, camelCase (camelCase text) ≠ camelCase text :=
  ⟨"a b c", by decide⟩

end QueryHooks.Naming
