import QueryHooks.Proofs.Naming.Characters

/-!
What a name in camel case tells of the words that it is made of. As long as each word after the first
starts with a mark, a capital or an underscore, and has no other, a name is read back into its words
as they are written in it; so two texts share a name only if they share these words.
-/

namespace QueryHooks.Naming

open QueryHooks.Text

variable {chars : List Char}

/-- The words of a text as its name writes them. -/
def pieces (text : String) : List (List Char) :=
  match words text.toList with
  | [] => [[]]
  | first :: later => lower first :: later.map laterWord

/-- Whether two texts consist of the same words, as names write them. -/
def SameWords (text text' : String) : Prop := pieces text = pieces text'

instance (text text' : String) : Decidable (SameWords text text') := inferInstanceAs (Decidable (_ = _))

theorem toList_camelCase (text : String) : (camelCase text).toList = (pieces text).flatten := by
  rw [camelCase, String.toList_ofList, camelCaseChars, pieces]
  cases words text.toList with
  | nil => rfl
  | cons first later => rw [joinWords, List.flatten_cons, List.flatMap_def]

/-- Capitals and the underscore. -/
def isMark (c : Char) : Bool := isUpper c || c == '_'

/-- Whether characters start with a mark and have no other. -/
def isSegment : List Char → Bool
  | [] => false
  | m :: rest => isMark m && rest.all (!isMark ·)

/-- Whether the capital of a character is one that leads back to it. -/
def isReversible (c : Char) : Bool :=
  match upperOf c with
  | [u] => lowerOf u == [c]
  | _ => false

/-- Whether the name of a text can be read back, and be told from others once it is capitalized. -/
def isReadable (text : String) : Bool :=
  ((pieces text).headD []).all (!isMark ·) && (pieces text).tail.all isSegment &&
    (pieces text).flatten.head?.all isReversible

/-- The parts of a name: what is before its first mark, and what each mark starts. -/
def segments : List Char → List (List Char)
  | [] => [[]]
  | c :: rest =>
      match segments rest with
      | [] => [[c]]
      | first :: later => if isMark c then [] :: (c :: first) :: later else (c :: first) :: later

theorem segments_append {first : List Char} {later : List (List Char)} {rest : List Char}
    (plain : ∀ c ∈ chars, isMark c = false) (whole : segments rest = first :: later) :
    segments (chars ++ rest) = (chars ++ first) :: later := by
  induction chars with
  | nil => exact whole
  | cons c others ih =>
      rw [List.cons_append, segments, ih fun d inside => plain d (List.mem_cons_of_mem _ inside)]
      simp only [plain c List.mem_cons_self, Bool.false_eq_true, if_false, List.cons_append]

theorem segments_flatten {marked : List (List Char)} (segmented : ∀ s ∈ marked, isSegment s = true) :
    segments marked.flatten = [] :: marked := by
  induction marked with
  | nil => rfl
  | cons s others ih =>
      have later := ih fun other inside => segmented other (List.mem_cons_of_mem _ inside)
      have isOne := segmented s List.mem_cons_self
      cases s with
      | nil => cases isOne
      | cons m plain =>
          rw [isSegment, Bool.and_eq_true] at isOne
          have unmarked : ∀ c ∈ plain, isMark c = false := by
            intro c inside
            simpa using List.all_eq_true.1 isOne.2 c inside
          rw [List.flatten_cons, List.cons_append, segments, segments_append unmarked later, List.append_nil]
          simp only [isOne.1, if_true]

theorem segments_camelCase {text : String} (readable : isReadable text = true) :
    segments (camelCase text).toList = pieces text := by
  rw [isReadable, Bool.and_eq_true, Bool.and_eq_true] at readable
  obtain ⟨⟨plain, segmented⟩, -⟩ := readable
  have some : pieces text ≠ [] := by
    rw [pieces]
    split <;> exact List.cons_ne_nil _ _
  rw [toList_camelCase]
  cases whole : pieces text with
  | nil => exact absurd whole some
  | cons first later =>
      rw [whole] at plain segmented
      have unmarked : ∀ c ∈ first, isMark c = false := by
        intro c inside
        simpa using List.all_eq_true.1 plain c inside
      have marked : segments later.flatten = [] :: later :=
        segments_flatten fun s inside => List.all_eq_true.1 segmented s inside
      rw [List.flatten_cons, segments_append unmarked marked, List.append_nil]

theorem camelCase_eq_iff {text text' : String} (readable : isReadable text = true)
    (readable' : isReadable text' = true) : camelCase text = camelCase text' ↔ SameWords text text' := by
  constructor
  · intro same
    rw [SameWords, ← segments_camelCase readable, ← segments_camelCase readable', same]
  · intro same
    apply String.toList_inj.1
    rw [toList_camelCase, toList_camelCase, same]

theorem exists_upperOf_of_isReversible {c : Char} (reversible : isReversible c = true) :
    ∃ u, upperOf c = [u] ∧ lowerOf u = [c] := by
  rw [isReversible] at reversible
  split at reversible
  · next u single => exact ⟨u, single, beq_iff_eq.1 reversible⟩
  · cases reversible

theorem toList_capitalizeFirst (text : String) : (capitalizeFirst text).toList =
    match text.toList with
    | [] => []
    | c :: rest => upperOf c ++ rest := by
  rw [capitalizeFirst]
  split <;> simp_all

/-- Capitalized names differ if the names do. -/
theorem capitalizeFirst_eq_iff {text text' : String} (reversible : text.toList.head?.all isReversible = true)
    (reversible' : text'.toList.head?.all isReversible = true) :
    capitalizeFirst text = capitalizeFirst text' ↔ text = text' := by
  refine ⟨fun same => ?_, congrArg capitalizeFirst⟩
  have chars := congrArg String.toList same
  rw [toList_capitalizeFirst, toList_capitalizeFirst] at chars
  apply String.toList_inj.1
  cases first : text.toList with
  | nil =>
      cases second : text'.toList with
      | nil => rfl
      | cons c' rest' =>
          rw [second] at reversible'
          obtain ⟨u', upper', -⟩ := exists_upperOf_of_isReversible reversible'
          rw [first, second] at chars
          simp only [upper', List.singleton_append] at chars
          cases chars
  | cons c rest =>
      rw [first] at reversible
      -- The capital goes back to one character only, so the first characters are the same.
      obtain ⟨u, upper, back⟩ := exists_upperOf_of_isReversible reversible
      cases second : text'.toList with
      | nil =>
          rw [first, second] at chars
          simp only [upper, List.singleton_append] at chars
          cases chars
      | cons c' rest' =>
          rw [second] at reversible'
          obtain ⟨u', upper', back'⟩ := exists_upperOf_of_isReversible reversible'
          rw [first, second] at chars
          simp only [upper, upper', List.singleton_append] at chars
          obtain ⟨capital, others⟩ := List.cons.inj chars
          rw [capital, back'] at back
          rw [(List.cons.inj back).1, others]

theorem hookName_eq_iff {a b : Api.Operation} (readable : isReadable a.id = true)
    (readable' : isReadable b.id = true) : hookName a = hookName b ↔ SameWords a.id b.id := by
  have starts {text : String} (isOne : isReadable text = true) :
      (camelCase text).toList.head?.all isReversible = true := by
    rw [toList_camelCase]
    rw [isReadable, Bool.and_eq_true] at isOne
    exact isOne.2
  rw [hookName, hookName, String.append_right_inj, functionName, functionName,
    capitalizeFirst_eq_iff (starts readable) (starts readable'), camelCase_eq_iff readable readable']

/-! ## Names of ASCII letters and digits -/

/-- Letters and digits of ASCII. -/
def isPlain (c : Char) : Bool := isAscii c && isWordChar c

theorem forall_plain {P : Char → Prop} (checked : ∀ point < 128, isWordChar (Char.ofNat point) = true →
    P (Char.ofNat point)) {c : Char} (plain : isPlain c = true) : P c := by
  rw [isPlain, Bool.and_eq_true] at plain
  exact @forall_ascii c (fun c => isWordChar c = true → P c) checked plain.1 plain.2

theorem lowerOf_plain {c : Char} (plain : isPlain c = true) :
    ∃ d, lowerOf c = [d] ∧ isMark d = false ∧ isReversible d = true := by
  have single : (match lowerOf c with
      | [d] => !isMark d && isReversible d
      | _ => false) = true := by
    refine forall_plain (P := fun c => (match lowerOf c with
      | [d] => !isMark d && isReversible d
      | _ => false) = true) ?_ plain
    decide
  split at single
  · next d only =>
      rw [Bool.and_eq_true, Bool.not_eq_true'] at single
      exact ⟨d, only, single⟩
  · cases single

theorem lower_cons_plain {c : Char} {rest : List Char} (plain : isPlain c = true) (before : List Char) :
    lowerAfter before (c :: rest) = lowerOf c ++ lowerAfter (c :: before) rest := by
  have other : (c == 'Σ') = false := by
    refine beq_false_of_ne ?_
    rintro rfl
    exact absurd plain (by decide)
  rw [lowerAfter, other, if_neg (by decide)]

theorem not_mark_lowerAfter (plain : ∀ c ∈ chars, isPlain c = true) (before : List Char) :
    ∀ d ∈ lowerAfter before chars, isMark d = false := by
  induction chars generalizing before with
  | nil =>
      intro d impossible
      cases impossible
  | cons c rest ih =>
      obtain ⟨d, only, unmarked, -⟩ := lowerOf_plain (plain c List.mem_cons_self)
      rw [lower_cons_plain (plain c List.mem_cons_self), only]
      intro e inside
      rcases List.mem_cons.1 inside with rfl | later
      · exact unmarked
      · exact ih (fun f within => plain f (List.mem_cons_of_mem _ within)) _ e later

theorem isSegment_laterWord {word : List Char} (some : word ≠ []) (plain : ∀ c ∈ word, isPlain c = true) :
    isSegment (laterWord word) = true := by
  have unmarked (chars : List Char) (plain : ∀ c ∈ chars, isPlain c = true) :
      (lower chars).all (!isMark ·) = true :=
    List.all_eq_true.2 fun d inside => by simp [not_mark_lowerAfter plain [] d inside]
  cases word with
  | nil => exact absurd rfl some
  | cons c rest =>
      rw [laterWord]
      cases digit : isAsciiDigit c with
      | true =>
          rw [if_pos (by simpa using digit), isSegment, unmarked _ plain]
          rfl
      | false =>
          have capital : (match upperOf c with
              | [u] => isMark u
              | _ => false) = true := by
            have check := forall_plain (P := fun c => isAsciiDigit c = false → (match upperOf c with
              | [u] => isMark u
              | _ => false) = true) (by decide) (plain c List.mem_cons_self)
            exact check digit
          split at capital
          · next u only =>
              rw [if_neg (by simp [digit]), capitalized, only, List.singleton_append, isSegment, capital,
                unmarked rest fun d within => plain d (List.mem_cons_of_mem _ within)]
              rfl
          · cases capital

/-- The words of a text are not empty, and of ASCII letters and digits if the text has no others. -/
theorem plain_of_mem_words {word : List Char} (ascii : ∀ c ∈ chars, isWordChar c = true → isAscii c = true)
    (inside : word ∈ words chars) : word ≠ [] ∧ ∀ c ∈ word, isPlain c = true := by
  refine ⟨by simpa using (List.mem_filter.1 inside).2, fun c within => ?_⟩
  have flat : c ∈ (words chars).flatten := List.mem_flatten.2 ⟨word, inside, within⟩
  rw [flatten_words, List.mem_filter] at flat
  have known : c ∈ chars := by
    have trimmed := flat.1
    rw [trim, List.mem_reverse] at trimmed
    exact (List.dropWhile_sublist _).subset
      (List.mem_reverse.1 ((List.dropWhile_sublist _).subset trimmed))
  rw [isPlain, flat.2, ascii c known flat.2]
  rfl

theorem isReadable_of_ascii {text : String}
    (ascii : ∀ c ∈ text.toList, isWordChar c = true → isAscii c = true) : isReadable text = true := by
  have plain : ∀ word ∈ words text.toList, word ≠ [] ∧ ∀ c ∈ word, isPlain c = true := fun _ inside =>
    plain_of_mem_words ascii inside
  rw [isReadable, pieces]
  cases whole : words text.toList with
  | nil => rfl
  | cons first later =>
      rw [whole] at plain
      obtain ⟨some, plainFirst⟩ := plain first List.mem_cons_self
      have unmarked : (lower first).all (!isMark ·) = true :=
        List.all_eq_true.2 fun d inside => by simp [not_mark_lowerAfter plainFirst [] d inside]
      have segmented : (later.map laterWord).all isSegment = true := by
        rw [List.all_map]
        refine List.all_eq_true.2 fun word inside => ?_
        obtain ⟨nonEmpty, plainWord⟩ := plain word (List.mem_cons_of_mem _ inside)
        exact isSegment_laterWord nonEmpty plainWord
      have starts : (lower first :: later.map laterWord).flatten.head?.all isReversible = true := by
        cases first with
        | nil => exact absurd rfl some
        | cons c rest =>
            obtain ⟨d, only, -, reversible⟩ := lowerOf_plain (plainFirst c List.mem_cons_self)
            rw [List.flatten_cons, lower, lower_cons_plain (plainFirst c List.mem_cons_self), only]
            exact reversible
      simp only [List.headD_cons, List.tail_cons, unmarked, segmented, starts, Bool.and_self]

end QueryHooks.Naming
