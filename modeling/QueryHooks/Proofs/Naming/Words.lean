import QueryHooks.Proofs.Naming.Settled

/-!
Where a text is cut into words. Every letter and digit ends up in one word, and two of them with nothing else of
words between end up in different ones exactly if something stands between them or a word starts at the second.
-/

namespace QueryHooks.Naming

open QueryHooks.Text

variable {c d : Char} {before between after rest : List Char} {previous : Option Char}

/-- The number of the list that holds an item, by the number of the item in all lists together. -/
def holder? {α : Type} : List (List α) → Nat → Option Nat
  | [], _ => none
  | list :: lists, i => if i < list.length then some 0 else (holder? lists (i - list.length)).map (· + 1)

/-- The number of the word that the character at a place ends up in. Other than letters and digits end up in none. -/
def wordAt? (chars : List Char) (i : Nat) : Option Nat :=
  if chars[i]?.any isWordChar then holder? (words chars) ((chars.take i).countP isWordChar) else none

theorem holder?_zero {α : Type} (item : α) (list : List α) (lists : List (List α)) :
    holder? ((item :: list) :: lists) 0 = some 0 := by
  rw [holder?, List.length_cons, if_pos (Nat.zero_lt_succ _)]

/-- One more item in front shifts all others by one. -/
theorem holder?_succ {α : Type} (item : α) (list : List α) (lists : List (List α)) (i : Nat) :
    holder? ((item :: list) :: lists) (i + 1) = holder? (list :: lists) i := by
  rw [holder?, holder?, List.length_cons, Nat.add_sub_add_right]
  simp only [Nat.add_lt_add_iff_right]

theorem mem_of_holder? {α : Type} {lists : List (List α)} {item : α} {i n : Nat}
    (held : holder? lists i = some n) (here : lists.flatten[i]? = some item) :
    ∃ list, lists[n]? = some list ∧ item ∈ list := by
  induction lists generalizing i n with
  | nil => cases held
  | cons list lists ih =>
      rw [List.flatten_cons] at here
      rw [holder?] at held
      split at held
      · next inside =>
          cases held
          rw [List.getElem?_append_left inside] at here
          exact ⟨list, rfl, List.mem_of_getElem? here⟩
      · next behind =>
          obtain ⟨m, later, rfl⟩ := Option.map_eq_some_iff.1 held
          rw [List.getElem?_append_right (Nat.le_of_not_lt behind)] at here
          exact ih later here

/-! ## The words after a character -/

/-- The words of a text that goes on after a character. -/
def wordsAfter (previous : Option Char) (chars : List Char) : List (List Char) :=
  (runs previous chars).filter (!·.isEmpty)

theorem wordsAfter_cons_of_other (other : isWordChar c = false) :
    wordsAfter previous (c :: rest) = wordsAfter (some c) rest := by
  obtain ⟨first, later, whole⟩ := exists_runs (some c) rest
  rw [wordsAfter, runs_cons previous whole, other, wordsAfter, whole]
  split <;> rfl

theorem wordsAfter_cons_of_word (isWord : isWordChar c = true) {first : List Char} {later : List (List Char)}
    (whole : runs (some c) rest = first :: later) :
    wordsAfter previous (c :: rest) = (c :: first) :: later.filter (!·.isEmpty) := by
  rw [wordsAfter, runs_cons previous whole, isWord]
  split <;> rfl

/-- A letter or digit in front starts a word of its own, or joins the first. -/
theorem holder?_wordsAfter_cons (isWord : isWordChar c = true) {first : List Char} {later : List (List Char)}
    (whole : runs (some c) rest = first :: later) (i : Nat) :
    holder? (wordsAfter previous (c :: rest)) (i + 1) =
      (holder? (wordsAfter (some c) rest) i).map (· + if first = [] then 1 else 0) := by
  rw [wordsAfter_cons_of_word isWord whole, holder?_succ, wordsAfter, whole]
  cases first with
  | nil => rw [holder?, List.length_nil, if_neg (Nat.not_lt_zero _), if_pos rfl]; rfl
  | cons d others => rw [if_neg (List.cons_ne_nil _ _)]; exact Option.map_id'.symm

theorem holder?_wordsAfter_zero (isWord : isWordChar d = true) (others : ∀ e ∈ between, isWordChar e = false) :
    holder? (wordsAfter previous (between ++ d :: after)) 0 = some 0 := by
  induction between generalizing previous with
  | nil =>
      obtain ⟨first, later, whole⟩ := exists_runs (some d) after
      rw [List.nil_append, wordsAfter_cons_of_word isWord whole]
      exact holder?_zero _ _ _
  | cons e more ih =>
      obtain ⟨other, rest⟩ := List.forall_mem_cons.1 others
      rw [List.cons_append, wordsAfter_cons_of_other other]
      exact ih rest

/-- A run ends before a letter or digit if something else comes first, or a word starts there. -/
theorem head_runs_eq_nil_iff (isWord : isWordChar d = true) (others : ∀ e ∈ between, isWordChar e = false)
    {first : List Char} {later : List (List Char)}
    (whole : runs (some c) (between ++ d :: after) = first :: later) :
    first = [] ↔ between ≠ [] ∨ startsWord c d after.head? = true := by
  cases between with
  | nil =>
      obtain ⟨own, more, inner⟩ := exists_runs (some d) after
      rw [List.nil_append, runs_cons _ inner, isWord, if_pos rfl, Option.any_some] at whole
      split at whole
      · next starts => exact iff_of_true (List.cons.inj whole).1.symm (.inr starts)
      · next goesOn =>
          rw [← (List.cons.inj whole).1]
          exact iff_of_false (List.cons_ne_nil _ _) (by simpa using goesOn)
  | cons e more =>
      obtain ⟨own, others', inner⟩ := exists_runs (some e) (more ++ d :: after)
      rw [List.cons_append, runs_cons _ inner, (List.forall_mem_cons.1 others).1] at whole
      refine iff_of_true ?_ (.inl (List.cons_ne_nil _ _))
      split at whole
      · exact (List.cons.inj whole).1.symm
      · exact (List.cons.inj whole).1.symm

/-- Of two letters or digits with none between, the second is in the same word as the first or in the next. -/
theorem exists_holder? (previous : Option Char) (before after : List Char) (isWord : isWordChar c = true)
    (isWord' : isWordChar d = true) (others : ∀ e ∈ between, isWordChar e = false) :
    ∃ n, holder? (wordsAfter previous (before ++ c :: (between ++ d :: after))) (before.countP isWordChar) = some n ∧
      holder? (wordsAfter previous (before ++ c :: (between ++ d :: after))) (before.countP isWordChar + 1) =
        some (n + if between ≠ [] ∨ startsWord c d after.head? = true then 1 else 0) := by
  -- By induction on what stands before both, which moves their numbers and their words by the same amount.
  induction before generalizing previous with
  | nil =>
      obtain ⟨first, later, whole⟩ := exists_runs (some c) (between ++ d :: after)
      rw [List.nil_append, List.countP_nil]
      refine ⟨0, ?_, ?_⟩
      · rw [wordsAfter_cons_of_word isWord whole]
        exact holder?_zero _ _ _
      · rw [holder?_wordsAfter_cons isWord whole, holder?_wordsAfter_zero isWord' others]
        simp only [head_runs_eq_nil_iff isWord' others whole, Option.map_some]
  | cons x before ih =>
      rw [List.cons_append]
      cases isOne : isWordChar x with
      | false =>
          rw [wordsAfter_cons_of_other isOne, List.countP_cons_of_neg (by simp [isOne])]
          exact ih (some x)
      | true =>
          obtain ⟨first, later, whole⟩ := exists_runs (some x) (before ++ c :: (between ++ d :: after))
          obtain ⟨n, held, next⟩ := ih (some x)
          rw [List.countP_cons_of_pos isOne, holder?_wordsAfter_cons isOne whole, holder?_wordsAfter_cons isOne whole,
            held, next]
          exact ⟨_, rfl, congrArg some (Nat.add_right_comm _ _ _)⟩

/-! ## The words of a text -/

theorem startsWord_iff {next : Option Char} : startsWord c d next = true ↔
    isUpper d = true ∧ (isLower c = true ∨ isDigit c = true ∨
      isUpper c = true ∧ ∃ e, next = some e ∧ isLower e = true) := by
  simp only [startsWord, Bool.and_eq_true, Bool.or_eq_true, Option.any_eq_true, or_assoc]

theorem wordAt?_append (isWord : isWordChar c = true) (before rest : List Char) :
    wordAt? (before ++ c :: rest) before.length =
      holder? (wordsAfter none (before ++ c :: rest)) (before.countP isWordChar) := by
  rw [wordAt?, List.getElem?_append_right (Nat.le_refl _), Nat.sub_self, List.getElem?_cons_zero, Option.any_some,
    isWord, if_pos rfl, List.take_left, words_eq]
  rfl

theorem mem_of_wordAt? (isWord : isWordChar c = true) (before rest : List Char) {n : Nat}
    (found : wordAt? (before ++ c :: rest) before.length = some n) :
    ∃ word, (words (before ++ c :: rest))[n]? = some word ∧ c ∈ word := by
  rw [wordAt?_append isWord] at found
  rw [words_eq]
  refine mem_of_holder? found ?_
  rw [← words_eq, flatten_words_eq, List.filter_append, List.countP_eq_length_filter,
    List.getElem?_append_right (Nat.le_refl _), Nat.sub_self, List.filter_cons_of_pos isWord, List.getElem?_cons_zero]

/--
The words hold all letters and digits of a text in order, and none is empty. Two letters or digits with none between
are in different words exactly if something stands between them, or the second is a capital after a small letter, after
a digit, or after a capital and before a small letter.
-/
theorem words_cut (chars : List Char) :
    (words chars).flatten = chars.filter isWordChar ∧ (∀ word ∈ words chars, word ≠ []) ∧
    ∀ (before between after : List Char) (c d : Char), chars = before ++ c :: (between ++ d :: after) →
      isWordChar c = true → isWordChar d = true → (∀ e ∈ between, isWordChar e = false) →
      ∃ m n, wordAt? chars before.length = some m ∧ wordAt? chars (before.length + 1 + between.length) = some n ∧
        (∃ word, (words chars)[m]? = some word ∧ c ∈ word) ∧ (∃ word, (words chars)[n]? = some word ∧ d ∈ word) ∧
        (m ≠ n ↔ between ≠ [] ∨ isUpper d = true ∧ (isLower c = true ∨ isDigit c = true ∨
          isUpper c = true ∧ ∃ e, after.head? = some e ∧ isLower e = true)) := by
  refine ⟨flatten_words_eq chars, fun word listed => ?_, ?_⟩
  · rw [words_eq] at listed
    simpa using (List.mem_filter.1 listed).2
  · rintro before between after c d rfl isWord isWord' others
    have whole : before ++ c :: between ++ d :: after = before ++ c :: (between ++ d :: after) :=
      List.append_assoc _ _ _
    have place : (before ++ c :: between).length = before.length + 1 + between.length := by
      rw [List.length_append, List.length_cons]
      omega
    have count : (before ++ c :: between).countP isWordChar = before.countP isWordChar + 1 := by
      have none : between.countP isWordChar = 0 := List.countP_eq_zero.2 fun e inside => by simp [others e inside]
      rw [List.countP_append, List.countP_cons_of_pos isWord, none]
    -- Letters and digits are counted, so the position of each is its number in the words put together.
    obtain ⟨n, held, next⟩ := exists_holder? none before after isWord isWord' others
    have first := (wordAt?_append isWord before (between ++ d :: after)).trans held
    have second := wordAt?_append isWord' (before ++ c :: between) after
    rw [whole, place, count, next] at second
    have inSecond := mem_of_wordAt? isWord' (before ++ c :: between) after (whole ▸ place ▸ second)
    rw [whole] at inSecond
    refine ⟨n, _, first, second, mem_of_wordAt? isWord _ _ first, inSecond, ?_⟩
    have apart (cut : Prop) [Decidable cut] : n ≠ n + (if cut then 1 else 0) ↔ cut := by
      split <;> simp_all
    rw [apart, startsWord_iff]

theorem httpServer_words_cut :
    isWordChar 'P' = true ∧ isWordChar 'S' = true ∧ (∀ e ∈ ([] : List Char), isWordChar e = false) ∧
    ∃ m n, wordAt? "HTTPServer".toList 3 = some m ∧ wordAt? "HTTPServer".toList 4 = some n ∧ m ≠ n := by
  have isWord : isWordChar 'P' = true ∧ isWordChar 'S' = true := by decide
  have others : ∀ e ∈ ([] : List Char), isWordChar e = false := fun _ inside => nomatch inside
  obtain ⟨m, n, first, second, -, -, apart⟩ :=
    (words_cut "HTTPServer".toList).2.2 "HTT".toList [] "erver".toList 'P' 'S' rfl isWord.1 isWord.2 others
  refine ⟨isWord.1, isWord.2, others, m, n, first, second, apart.2 (.inr ⟨by decide, .inr (.inr ⟨by decide, ?_⟩)⟩)⟩
  exact ⟨'e', rfl, by decide⟩

end QueryHooks.Naming
