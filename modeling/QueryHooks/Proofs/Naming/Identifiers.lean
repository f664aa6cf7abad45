import QueryHooks.Proofs.Naming.Settled
import QueryHooks.Proofs.TypeScript.IdentifierName

/-!
Which generated names are identifiers. The case tables keep what can stand in an identifier and what can start one, so
the letters and digits of a text decide it: the first one for names that start with it, and all of them.
-/

namespace QueryHooks.Naming

open QueryHooks.Text
open QueryHooks.TypeScript (isIdStart isIdContinue isIdentifierName isIdentifierName_eq isIdContinue_of_isIdStart
  reservedWords)

variable {c : Char} {chars word : List Char}

/-- What is written for a character starts an identifier, and can stand in one, exactly if the character does. -/
structure StandsFor (written : List Char) (c : Char) : Prop where
  starts : written.head?.map isIdStart = some (isIdStart c)
  goesOn : written.all isIdContinue = isIdContinue c
  /-- Marks that become part of what is written keep no identifier from it. -/
  marks : ∀ d ∈ written, isWordChar d = false → isIdContinue d = true

theorem StandsFor.self (isWord : isWordChar c = true) : StandsFor [c] c where
  starts := rfl
  goesOn := by rw [List.all_cons, List.all_nil, Bool.and_true]
  marks := by
    intro d same mark
    rw [List.mem_singleton.1 same, isWord] at mark
    cases mark

theorem StandsFor.of_starts {written : List Char} (starts : isIdStart c = true)
    (first : written.head?.any isIdStart = true) (all : written.all isIdContinue = true) : StandsFor written c where
  starts := by
    cases written with
    | nil => cases first
    | cons d rest => rw [List.head?_cons, Option.map_some, starts, show isIdStart d = true from first]
  goesOn := all.trans (isIdContinue_of_isIdStart starts).symm
  marks := fun d inside _ => List.all_eq_true.1 all d inside

/-! ## The case tables -/

/-- The letters that can start an identifier, which are all but one. -/
private def startLetters : List (Nat × Nat) := Table.letters.filter fun range => range.1 != 0x2e2f

private theorem isIdStart_ofNat {point : Nat} (letter : inRanges point startLetters = true) :
    isIdStart (Char.ofNat point) = true := by
  have apart : ∀ range ∈ startLetters, range.2 < 0x2e2f ∨ 0x2e2f < range.1 := by decide +kernel
  obtain ⟨range, listed, low, high⟩ := inRanges_iff.1 letter
  have isLetter' : inRanges point Table.letters = true :=
    inRanges_iff.2 ⟨range, (List.mem_filter.1 listed).1, low, high⟩
  obtain ⟨same, other⟩ := toNat_ofNat_of_letter isLetter'
  have notTilde : Char.ofNat point ≠ '\u2e2f' := by
    intro tilde
    have here : point = 0x2e2f := by rw [← same, tilde]; rfl
    have := apart range listed
    omega
  rw [isIdStart, other, if_neg (by decide), isLetter, other, if_neg (by decide), same, isLetter',
    bne_iff_ne.2 notTilde]
  rfl

/-- Whether a code point is found to start an identifier: an ASCII one by the rule, any other among the letters. -/
private def starts (point : Nat) : Bool :=
  Nat.blt point 128 && isIdStart (Char.ofNat point) || spans startLetters point point

private theorem isIdStart_of_starts {point : Nat} (found : starts point = true) :
    isIdStart (Char.ofNat point) = true := by
  rw [starts, Bool.or_eq_true, Bool.and_eq_true] at found
  rcases found with ascii | listed
  · exact ascii.2
  · exact isIdStart_ofNat (inRanges_of_spans listed (Nat.le_refl _) (Nat.le_refl _))

/-- Whether a spelled out character starts an identifier, and so does what it becomes. -/
private def expandsAsStart (e : Nat × List Nat) : Bool :=
  starts e.1 && e.2.head?.any starts && e.2.all fun image => starts image || isIdContinue (Char.ofNat image)

private theorem standsFor_of_expandsAsStart {images : List Nat} (checked : expandsAsStart (c.toNat, images) = true) :
    StandsFor (images.map Char.ofNat) c := by
  rw [expandsAsStart, Bool.and_eq_true, Bool.and_eq_true] at checked
  obtain ⟨⟨itself, first⟩, all⟩ := checked
  have isStart := isIdStart_of_starts itself
  rw [Char.ofNat_toNat] at isStart
  refine .of_starts isStart ?_ ?_
  · obtain ⟨image, isFirst, start⟩ := (Option.any_eq_true _ _).1 first
    rw [List.head?_map, isFirst]
    exact isIdStart_of_starts start
  · rw [List.all_map, List.all_eq_true]
    intro image inside
    rcases Bool.or_eq_true_iff.1 (List.all_eq_true.1 all image inside) with start | goesOn
    · exact isIdContinue_of_isIdStart (isIdStart_of_starts start)
    · exact goesOn

/-- A character that a table moves or spells out starts an identifier, and so does what it becomes. -/
private theorem standsFor_of_mapped {runs : List (Nat × Nat × Nat × Int)} {expansions : List (Nat × List Nat)}
    {written : List Char} (other : isAscii c = false) (isWord : isWordChar c = true)
    (whole : Mapped runs expansions c written)
    (moves : ∀ run ∈ runs, leadsTo startLetters isIdStart run = true ∧
      leadsTo startLetters isIdStart (run.1, run.2.1, run.2.2.1, 0) = true)
    (expands : ∀ e ∈ expansions, expandsAsStart e = true) :
    StandsFor written c := by
  cases whole with
  | moved listed covered =>
      obtain ⟨leads, stays⟩ := moves _ listed
      have image := of_leadsTo (fun _ => isIdStart_ofNat) leads other isWord covered
      have itself := of_leadsTo (fun _ => isIdStart_ofNat) stays other isWord covered
      rw [Int.add_zero, Int.toNat_natCast, Char.ofNat_toNat] at itself
      refine .of_starts itself image ?_
      rw [List.all_cons, isIdContinue_of_isIdStart image]
      rfl
  | expanded listed =>
      exact standsFor_of_expandsAsStart (expands _ listed)
  | kept => exact .self isWord

private theorem standsFor_of_ascii {f : Char → List Char} (ascii : isAscii c = true)
    (checked : ∀ point < 128, f (Char.ofNat point) = [Char.ofNat point] ∨ isIdStart (Char.ofNat point) = true ∧
      (f (Char.ofNat point)).head?.any isIdStart = true ∧ (f (Char.ofNat point)).all isIdContinue = true)
    (isWord : isWordChar c = true) : StandsFor (f c) c := by
  rcases forall_ascii (P := fun c => f c = [c] ∨ isIdStart c = true ∧ (f c).head?.any isIdStart = true ∧
    (f c).all isIdContinue = true) checked ascii with same | ⟨starts, first, all⟩
  · rw [same]
    exact .self isWord
  · exact .of_starts starts first all

theorem standsFor_upperOf (isWord : isWordChar c = true) : StandsFor (upperOf c) c := by
  cases ascii : isAscii c with
  | true => exact standsFor_of_ascii ascii (by decide) isWord
  | false => exact standsFor_of_mapped ascii isWord (mapped_upperOf ascii) (by decide +kernel) (by decide +kernel)

theorem standsFor_lowerOf (isWord : isWordChar c = true) : StandsFor (lowerOf c) c := by
  cases ascii : isAscii c with
  | true => exact standsFor_of_ascii ascii (by decide) isWord
  | false => exact standsFor_of_mapped ascii isWord (mapped_lowerOf ascii) (by decide +kernel) (by decide +kernel)

/-! ## Names -/

/-- Whether a text, character by character, has the same part in identifiers as the letters and digits of another. -/
structure StandsForAll (written letters : List Char) : Prop where
  starts : written.head?.map isIdStart = letters.head?.map isIdStart
  goesOn : written.all isIdContinue = letters.all isIdContinue
  marks : ∀ d ∈ written, isWordChar d = false → isIdContinue d = true

theorem StandsForAll.nil : StandsForAll [] [] := ⟨rfl, rfl, fun _ inside => nomatch inside⟩

theorem StandsFor.append {written more letters : List Char} (first : StandsFor written c)
    (goesOn : more.all isIdContinue = letters.all isIdContinue)
    (marks : ∀ d ∈ more, isWordChar d = false → isIdContinue d = true) :
    StandsForAll (written ++ more) (c :: letters) where
  starts := by
    have starts := first.starts
    cases written with
    | nil => cases starts
    | cons d rest => exact starts
  goesOn := by rw [List.all_append, List.all_cons, first.goesOn, goesOn]
  marks := fun d inside => (List.mem_append.1 inside).elim (first.marks d) (marks d)

theorem standsForAll_lowerAfter (isWord : ∀ c ∈ chars, isWordChar c = true) (before : List Char) :
    StandsForAll (lowerAfter before chars) chars := by
  induction chars generalizing before with
  | nil => exact .nil
  | cons c rest ih =>
      have later := ih (fun d after => isWord d (List.mem_cons_of_mem _ after)) (c :: before)
      rw [lowerAfter]
      refine StandsFor.append ?_ later.goesOn later.marks
      split
      · next sigma =>
          rw [beq_iff_eq.1 sigma]
          refine .of_starts (by decide +kernel) ?_ ?_ <;> split <;> decide +kernel
      · exact standsFor_lowerOf (isWord c List.mem_cons_self)

theorem goesOn_laterWord (isWord : ∀ c ∈ word, isWordChar c = true) :
    (laterWord word).all isIdContinue = word.all isIdContinue ∧
      ∀ d ∈ laterWord word, isWordChar d = false → isIdContinue d = true := by
  cases word with
  | nil => exact ⟨rfl, fun _ inside => nomatch inside⟩
  | cons c rest =>
      cases digit : isAsciiDigit c with
      | true =>
          have lowered := standsForAll_lowerAfter isWord []
          rw [laterWord_of_digit digit, lower]
          refine ⟨lowered.goesOn, fun d inside => ?_⟩
          rcases List.mem_cons.1 inside with rfl | later
          · exact fun _ => by decide
          · exact lowered.marks d later
      | false =>
          have lowered := standsForAll_lowerAfter (fun d later => isWord d (List.mem_cons_of_mem _ later)) []
          have whole := (standsFor_upperOf (isWord c List.mem_cons_self)).append lowered.goesOn lowered.marks
          rw [laterWord_of_letter digit]
          exact ⟨whole.goesOn, whole.marks⟩

theorem standsForAll_joinWords {words : List (List Char)}
    (isWord : ∀ word ∈ words, word ≠ [] ∧ ∀ c ∈ word, isWordChar c = true) :
    StandsForAll (joinWords words) words.flatten := by
  have later {rest : List (List Char)} (isWord : ∀ word ∈ rest, ∀ c ∈ word, isWordChar c = true) :
      (rest.flatMap laterWord).all isIdContinue = rest.flatten.all isIdContinue ∧
        ∀ d ∈ rest.flatMap laterWord, isWordChar d = false → isIdContinue d = true := by
    induction rest with
    | nil => exact ⟨rfl, fun _ inside => nomatch inside⟩
    | cons word rest ih =>
        obtain ⟨goesOn, marks⟩ := goesOn_laterWord (isWord word List.mem_cons_self)
        obtain ⟨goOn, others⟩ := ih fun w inside => isWord w (List.mem_cons_of_mem _ inside)
        rw [List.flatMap_cons, List.flatten_cons, List.all_append, List.all_append, goesOn, goOn]
        exact ⟨rfl, fun d inside => (List.mem_append.1 inside).elim (marks d) (others d)⟩
  cases words with
  | nil => exact .nil
  | cons first rest =>
      obtain ⟨nonEmpty, isFirst⟩ := isWord first List.mem_cons_self
      obtain ⟨goesOn, marks⟩ := later fun w inside => (isWord w (List.mem_cons_of_mem _ inside)).2
      have lowered := standsForAll_lowerAfter isFirst []
      cases first with
      | nil => exact absurd rfl nonEmpty
      | cons c others =>
          rw [joinWords, List.flatten_cons, lower]
          refine ⟨?_, by rw [List.all_append, List.all_append, lowered.goesOn, goesOn],
            fun d inside => (List.mem_append.1 inside).elim (lowered.marks d) (marks d)⟩
          obtain ⟨d, more, whole, -⟩ := exists_lowerAfter [] c others
          have starts := lowered.starts
          rw [whole] at starts ⊢
          exact starts

theorem standsForAll_camelCaseChars (chars : List Char) :
    StandsForAll (camelCaseChars chars) (chars.filter isWordChar) := by
  rw [camelCaseChars, ← flatten_words_eq]
  refine standsForAll_joinWords fun word listed => ⟨?_, fun c inside => ?_⟩
  · rw [words_eq] at listed
    have := (List.mem_filter.1 listed).2
    intro empty
    rw [empty] at this
    cases this
  · rw [words_eq] at listed
    exact isWordChar_of_mem_runs (List.mem_filter.1 listed).1 inside

theorem StandsForAll.trans {written between letters : List Char} (first : StandsForAll written between)
    (second : StandsForAll between letters) : StandsForAll written letters :=
  ⟨first.starts.trans second.starts, first.goesOn.trans second.goesOn, first.marks⟩

/-- A name is empty, or starts with a letter or digit. -/
theorem camelCaseChars_cases (chars : List Char) :
    camelCaseChars chars = [] ∨ ∃ c rest, camelCaseChars chars = c :: rest ∧ isWordChar c = true := by
  rw [camelCaseChars, words_eq]
  exact joinWords_cases fun word listed c inside => isWordChar_of_mem_runs listed inside

/-! ## Names of operations and tags -/

/-- The letters and digits of a text. -/
def letters (text : String) : List Char := text.toList.filter isWordChar

/-- Whether the first letter or digit of a text, and there is one, can start an identifier. -/
def startsName (text : String) : Bool := (letters text).head?.any isIdStart

/-- Whether each letter and digit of a text can stand in an identifier. -/
def fitsName (text : String) : Bool := (letters text).all isIdContinue

theorem StandsForAll.any_starts {written letters : List Char} (same : StandsForAll written letters) :
    written.head?.any isIdStart = letters.head?.any isIdStart := by
  simpa only [Option.any_map, id_eq] using congrArg (·.any id) same.starts

theorem StandsForAll.all_starts {written letters : List Char} (same : StandsForAll written letters) :
    written.head?.all isIdStart = letters.head?.all isIdStart := by
  simpa only [Option.all_map, id_eq] using congrArg (·.all id) same.starts

theorem standsForAll_camelCase (text : String) : StandsForAll (camelCase text).toList (letters text) := by
  rw [camelCase, String.toList_ofList]
  exact standsForAll_camelCaseChars text.toList

theorem standsForAll_capitalizeFirst (text : String) :
    StandsForAll (capitalizeFirst (camelCase text)).toList (letters text) := by
  have named := standsForAll_camelCase text
  have cases := camelCaseChars_cases text.toList
  rw [show camelCaseChars text.toList = (camelCase text).toList by rw [camelCase, String.toList_ofList]] at cases
  rw [capitalizeFirst]
  rcases cases with none | ⟨c, rest, whole, isWord⟩
  · rw [none] at named ⊢
    exact named
  · rw [whole] at named ⊢
    rw [String.toList_ofList]
    exact ((standsFor_upperOf isWord).append rfl fun d later =>
      named.marks d (List.mem_cons_of_mem _ later)).trans named

/-- The name of a text is an identifier exactly if its first letter or digit starts one and all others fit. -/
theorem isIdentifierName_camelCase (text : String) :
    isIdentifierName (camelCase text).toList = (startsName text && fitsName text) := by
  have named := standsForAll_camelCase text
  rw [isIdentifierName_eq, named.any_starts, named.goesOn, startsName, fitsName]

theorem isIdentifierName_hookName (op : Api.Operation) :
    isIdentifierName (hookName op).toList = fitsName op.id := by
  rw [hookName, functionName, String.toList_append, isIdentifierName_eq, List.all_append,
    (standsForAll_capitalizeFirst op.id).goesOn, fitsName]
  rfl

theorem isIdentifierName_paramsTypeName (op : Api.Operation) :
    isIdentifierName (paramsTypeName op).toList = ((letters op.id).head?.all isIdStart && fitsName op.id) := by
  have named := standsForAll_capitalizeFirst op.id
  have ending (chars : List Char) : (chars ++ "Params".toList).head?.any isIdStart = chars.head?.all isIdStart := by
    cases chars <;> rfl
  rw [paramsTypeName, functionName, String.toList_append, isIdentifierName_eq, List.all_append, ending,
    named.all_starts, named.goesOn, fitsName, show "Params".toList.all isIdContinue = true from rfl, Bool.and_true]

theorem hookName_not_reserved (op : Api.Operation) : hookName op ∉ reservedWords := by
  have others : ∀ word ∈ reservedWords, ¬ "use".toList <+: word.toList := by decide +kernel
  intro listed
  refine others _ listed ?_
  rw [hookName, String.toList_append]
  exact List.prefix_append _ _

theorem paramsTypeName_not_reserved (op : Api.Operation) : paramsTypeName op ∉ reservedWords := by
  have others : ∀ word ∈ reservedWords, ¬ "Params".toList <:+ word.toList := by decide +kernel
  intro listed
  refine others _ listed ?_
  rw [paramsTypeName, String.toList_append]
  exact List.suffix_append _ _

/-- A name has the same part in identifiers as the text that it is made from. -/
theorem names_of_camelCase (text : String) :
    startsName (camelCase text) = startsName text ∧ fitsName (camelCase text) = fitsName text := by
  have named := standsForAll_camelCase text
  have cases := camelCaseChars_cases text.toList
  rw [show camelCaseChars text.toList = (camelCase text).toList by rw [camelCase, String.toList_ofList]] at cases
  constructor
  · rw [startsName, startsName, ← named.any_starts, letters]
    rcases cases with none | ⟨c, rest, whole, isWord⟩
    · rw [none]
      rfl
    · rw [whole, List.filter_cons_of_pos isWord]
      rfl
  · rw [fitsName, fitsName, ← named.goesOn, letters, Bool.eq_iff_iff, List.all_eq_true, List.all_eq_true]
    constructor
    · intro fits c inside
      cases isWord : isWordChar c with
      | true => exact fits c (List.mem_filter.2 ⟨inside, isWord⟩)
      | false => exact named.marks c inside isWord
    · exact fun fits c inside => fits c (List.mem_filter.1 inside).1

end QueryHooks.Naming
