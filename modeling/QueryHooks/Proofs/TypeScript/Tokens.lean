import QueryHooks.Proofs.TypeScript.LiteralText
import QueryHooks.TypeScript.Literal

/-!
Source text cut into tokens as the language does it: names, texts in quotes and marks, with white space and comments up
to the end of a line between them. Numbers, templates, regular expressions, escapes in names and comments between stars
are not read.
-/

namespace QueryHooks.TypeScript

open QueryHooks.Text (inRanges)

inductive Token
  | name (chars : List Char)
  | text (units : List Nat)
  | mark (c : Char)
deriving DecidableEq, Repr

namespace Token

def marks : List Char := "\x7b\x7d()[]:,;=.".toList

def isLineEnd (c : Char) : Bool := c == '\n' || c == '\r' || c == '\u2028' || c == '\u2029'

/-- White space and line ends. -/
def isGap (c : Char) : Bool :=
  inRanges c.toNat [(9, 13), (32, 32), (160, 160), (5760, 5760), (8192, 8202), (8232, 8233), (8239, 8239), (8287, 8287),
    (12288, 12288), (65279, 65279)]

/-- The code units of a string, read after its opening mark, and the text behind the closing one, on the same line. -/
def inside? (mark : Char) (chars : List Char) : Option (List Nat × List Char) :=
  match chars with
  | [] => none
  | c :: rest =>
      if c == mark then some ([], rest)
      else if c == '\\' then
        match _found : escape? rest with
        | some (units, after) => (inside? mark after).map fun (more, last) => (units ++ more, last)
        | none => none
      else if c == '\n' || c == '\r' then none
      else (inside? mark rest).map fun (more, last) => (charUnits c ++ more, last)
termination_by chars.length
decreasing_by
  · have := escape?_length _found
    simp only [List.length_cons]
    omega
  · simp

theorem inside?_length {mark : Char} {chars after : List Char} {units : List Nat}
    (found : inside? mark chars = some (units, after)) : after.length < chars.length := by
  fun_induction inside? mark chars generalizing units with
  | case1 => cases found
  | case2 c rest _ =>
      obtain ⟨-, rfl⟩ := Prod.mk.inj (Option.some.inj found)
      simp
  | case3 c rest _ _ units' after' read ih =>
      obtain ⟨⟨more, last⟩, isMore, same⟩ := Option.map_eq_some_iff.1 found
      obtain ⟨-, rfl⟩ := Prod.mk.inj same
      have further := ih isMore
      have escaped := escape?_length read
      simp only [List.length_cons]
      omega
  | case4 => cases found
  | case5 => cases found
  | case6 c rest _ _ _ ih =>
      obtain ⟨⟨more, last⟩, isMore, same⟩ := Option.map_eq_some_iff.1 found
      obtain ⟨-, rfl⟩ := Prod.mk.inj same
      have further := ih isMore
      simp only [List.length_cons]
      omega

/-- The tokens of source text. -/
def read? (chars : List Char) : Option (List Token) :=
  match chars with
  | [] => some []
  | c :: rest =>
      if isIdStart c then
        (read? (rest.dropWhile isIdContinue)).map (.name (c :: rest.takeWhile isIdContinue) :: ·)
      else if c ∈ marks then (read? rest).map (.mark c :: ·)
      else if c == '\x27' || c == '"' then
        match _found : inside? c rest with
        | some (units, after) => (read? after).map (.text units :: ·)
        | none => none
      else if c == '/' then
        if rest.head? == some '/' then read? (rest.dropWhile (!isLineEnd ·)) else none
      else if isGap c then read? rest
      else none
termination_by chars.length
decreasing_by
  · have := (List.dropWhile_sublist isIdContinue (l := rest)).length_le
    simp only [List.length_cons]
    omega
  · simp
  · have := inside?_length _found
    simp only [List.length_cons]
    omega
  · have := (List.dropWhile_sublist (!isLineEnd ·) (l := rest)).length_le
    simp only [List.length_cons]
    omega
  · simp

/-! ## One token -/

section

variable {c : Char} {rest : List Char}

theorem read?_name {name : List Char} (isName : isIdentifierName name = true)
    (ends : rest.head?.any isIdContinue = false) : read? (name ++ rest) = (read? rest).map (.name name :: ·) := by
  cases name with
  | nil => cases isName
  | cons c more =>
      obtain ⟨starts, goesOn⟩ := Bool.and_eq_true_iff.1 isName
      obtain ⟨taken, dropped⟩ := takeWhile_name isName ends
      have continues := isIdContinue_of_isIdStart starts
      rw [List.cons_append, List.takeWhile_cons_of_pos continues] at taken
      rw [List.cons_append, List.dropWhile_cons_of_pos continues] at dropped
      rw [List.cons_append, read?, if_pos starts, taken, dropped]

theorem read?_mark (isMark : c ∈ marks) : read? (c :: rest) = (read? rest).map (.mark c :: ·) := by
  have noStart : ∀ c ∈ marks, ¬ isIdStart c = true := by decide
  rw [read?, if_neg (noStart c isMark), if_pos isMark]

theorem read?_gap (isSpace : c = ' ' ∨ c = '\n') : read? (c :: rest) = read? rest := by
  rcases isSpace with rfl | rfl
  · rw [read?, if_neg (by decide), if_neg (by decide), if_neg (by decide), if_neg (by decide), if_pos (by decide)]
  · rw [read?, if_neg (by decide), if_neg (by decide), if_neg (by decide), if_neg (by decide), if_pos (by decide)]

theorem read?_quote (isQuote : c = '\x27' ∨ c = '"') :
    read? (c :: rest) = (inside? c rest).bind fun (units, after) => (read? after).map (.text units :: ·) := by
  have noStart : ¬ isIdStart c = true := by rcases isQuote with rfl | rfl <;> decide
  have noMark : c ∉ marks := by rcases isQuote with rfl | rfl <;> decide
  rw [read?, if_neg noStart, if_neg noMark, if_pos (by simpa using isQuote)]
  split
  · next found => rw [found]; rfl
  · next found => rw [found]; rfl

theorem read?_comment {line : List Char} (oneLine : ∀ c ∈ line, isLineEnd c = false) :
    read? ('/' :: '/' :: (line ++ '\n' :: rest)) = read? rest := by
  have skipped : ('/' :: (line ++ '\n' :: rest)).dropWhile (!isLineEnd ·) = '\n' :: rest := by
    have plain : ∀ c ∈ line, (!isLineEnd c) = true := fun c inside => by rw [oneLine c inside]; rfl
    rw [List.dropWhile_cons_of_pos (by decide), List.dropWhile_append_of_pos plain,
      List.dropWhile_cons_of_neg (by decide)]
  rw [read?, if_neg (by decide), if_neg (by decide), if_neg (by decide), if_pos (by decide), List.head?_cons,
    if_pos (beq_self_eq_true _), skipped, read?_gap (.inr rfl)]

end

/-! ## Texts in quotes -/

/-- How a character is spelled between quotes: as itself, or by an escape that means the same whatever follows it. -/
inductive Spells (mark c : Char) : List Char → Prop
  | itself (noMark : c ≠ mark) (noEscape : c ≠ '\\') (noBreak : c ≠ '\n' ∧ c ≠ '\r') : Spells mark c [c]
  | escaped {used : List Char} (noEscape : mark ≠ '\\')
      (means : ∀ rest, escape? (used ++ rest) = some (charUnits c, rest)) : Spells mark c ('\\' :: used)

theorem inside?_spells {mark c : Char} {used : List Char} (spells : Spells mark c used) (rest : List Char) :
    inside? mark (used ++ rest) = (inside? mark rest).map fun (units, after) => (charUnits c ++ units, after) := by
  cases spells with
  | itself noMark noEscape noBreak =>
      have noLine : (c == '\n' || c == '\r') = false := by
        rw [Bool.or_eq_false_iff, beq_eq_false_iff_ne, beq_eq_false_iff_ne]
        exact noBreak
      rw [List.singleton_append, inside?, if_neg (by simpa using noMark), if_neg (by simpa using noEscape), noLine,
        if_neg (by decide)]
  | escaped noEscape means =>
      rw [List.cons_append, inside?, if_neg (by simpa using noEscape.symm), if_pos (by decide)]
      split
      · next found =>
          rw [means] at found
          obtain ⟨rfl, rfl⟩ := Prod.mk.inj (Option.some.inj found)
          rfl
      · next found =>
          rw [means] at found
          cases found

theorem inside?_lineEnd {mark c : Char} (isBreak : c = '\n' ∨ c = '\r') (noMark : c ≠ mark) (rest : List Char) :
    inside? mark (c :: rest) = none := by
  have noEscape : c ≠ '\\' := by rcases isBreak with rfl | rfl <;> decide
  rw [inside?, if_neg (by simpa using noMark), if_neg (by simpa using noEscape), if_pos (by simpa using isBreak)]

theorem inside?_mark {mark : Char} (rest : List Char) : inside? mark (mark :: rest) = some ([], rest) := by
  rw [inside?, if_pos (beq_self_eq_true _)]

/-! ## Text that is cut the same way whatever follows -/

/-- A text that is cut into tokens, whatever follows it, exactly if a condition holds. -/
structure Cuts (chars : List Char) (legible : Prop) (tokens : List Token) : Prop where
  whole : legible → ∀ rest, read? (chars ++ rest) = (read? rest).map (tokens ++ ·)
  broken : ¬ legible → ∀ rest, read? (chars ++ rest) = none

namespace Cuts

variable {chars chars' : List Char} {legible legible' : Prop} {tokens tokens' : List Token}

theorem of_whole (whole : ∀ rest, read? (chars ++ rest) = (read? rest).map (tokens ++ ·)) : Cuts chars True tokens where
  whole _ := whole
  broken never := absurd trivial never

theorem nil : Cuts [] True [] :=
  of_whole fun rest => by simp

theorem append (first : Cuts chars legible tokens) (second : Cuts chars' legible' tokens') :
    Cuts (chars ++ chars') (legible ∧ legible') (tokens ++ tokens') where
  whole both rest := by
    rw [List.append_assoc, first.whole both.1, second.whole both.2, Option.map_map]
    exact congrArg (Option.map · _) (funext fun more => (List.append_assoc _ _ more).symm)
  broken either rest := by
    rw [List.append_assoc]
    by_cases here : legible
    · rw [first.whole here, second.broken fun later => either ⟨here, later⟩]
      rfl
    · exact first.broken here _

/-- A text with another one before or behind it that is always cut. -/
theorem append_always (first : Cuts chars legible tokens) (second : Cuts chars' True tokens') :
    Cuts (chars ++ chars') legible (tokens ++ tokens') :=
  and_true legible ▸ first.append second

theorem always_append (first : Cuts chars True tokens) (second : Cuts chars' legible' tokens') :
    Cuts (chars ++ chars') legible' (tokens ++ tokens') :=
  true_and legible' ▸ first.append second

theorem flatMap {α : Type} {piece : α → List Char} {isLegible : α → Prop} {tokensOf : α → List Token} {items : List α}
    (cuts : ∀ a ∈ items, Cuts (piece a) (isLegible a) (tokensOf a)) :
    Cuts (items.flatMap piece) (∀ a ∈ items, isLegible a) (items.flatMap tokensOf) := by
  induction items with
  | nil => simpa using nil
  | cons a rest ih =>
      rw [List.flatMap_cons, List.flatMap_cons, List.forall_mem_cons]
      exact (cuts a List.mem_cons_self).append (ih fun b inside => cuts b (List.mem_cons_of_mem _ inside))

theorem intercalate {α : Type} {between : List Char} {betweenTokens : List Token} {piece : α → List Char}
    {isLegible : α → Prop} {tokensOf : α → List Token} {items : List α} (apart : Cuts between True betweenTokens)
    (cuts : ∀ a ∈ items, Cuts (piece a) (isLegible a) (tokensOf a)) :
    Cuts (between.intercalate (items.map piece)) (∀ a ∈ items, isLegible a)
      (betweenTokens.intercalate (items.map tokensOf)) := by
  induction items with
  | nil => simpa using nil
  | cons a rest ih =>
      have first := cuts a List.mem_cons_self
      have later := ih fun b inside => cuts b (List.mem_cons_of_mem _ inside)
      rw [List.forall_mem_cons]
      cases rest with
      | nil => simpa using first
      | cons b others =>
          rw [List.map_cons, List.map_cons, List.map_cons, List.map_cons, List.intercalate_cons_cons,
            List.intercalate_cons_cons]
          exact (first.append_always apart).append later

/-- Marks, with spaces and line ends between them. -/
theorem punctuation (chars : List Char) (plain : ∀ c ∈ chars, c ∈ marks ∨ c = ' ' ∨ c = '\n') :
    Cuts chars True ((chars.filter (· ∈ marks)).map .mark) := by
  refine of_whole fun rest => ?_
  induction chars with
  | nil => simp
  | cons c more ih =>
      have later := ih fun d inside => plain d (List.mem_cons_of_mem _ inside)
      by_cases isMark : c ∈ marks
      · rw [List.cons_append, read?_mark isMark, later, List.filter_cons_of_pos (by simpa using isMark), Option.map_map]
        rfl
      · rw [List.cons_append, read?_gap ((plain c List.mem_cons_self).resolve_left isMark), later,
          List.filter_cons_of_neg (by simpa using isMark)]

theorem name {name : List Char} (isName : isIdentifierName name = true) (rest : Cuts chars legible tokens)
    (ends : chars.head?.any isIdContinue = false) (some : chars ≠ []) :
    Cuts (name ++ chars) legible (.name name :: tokens) := by
  have stops (more : List Char) : (chars ++ more).head?.any isIdContinue = false := by
    rw [List.head?_append_of_ne_nil _ some]
    exact ends
  constructor
  · intro whole more
    rw [List.append_assoc, read?_name isName (stops more), rest.whole whole, Option.map_map]
    rfl
  · intro broken more
    rw [List.append_assoc, read?_name isName (stops more), rest.broken broken]
    rfl

/-- Marks and spaces, and then names, each with further ones behind it. -/
theorem phrase (first : String) (pairs : List (String × String))
    (plain : ∀ c ∈ first.toList, c ∈ marks ∨ c = ' ' ∨ c = '\n')
    (sound : ∀ pair ∈ pairs, isIdentifierName pair.1.toList = true ∧ pair.2.toList ≠ [] ∧
      pair.2.toList.head?.any isIdContinue = false ∧ ∀ c ∈ pair.2.toList, c ∈ marks ∨ c = ' ' ∨ c = '\n')
    (isText : chars = first.toList ++ pairs.flatMap fun pair => pair.1.toList ++ pair.2.toList)
    (areTokens : tokens = (first.toList.filter (· ∈ marks)).map .mark ++
      pairs.flatMap fun pair => .name pair.1.toList :: (pair.2.toList.filter (· ∈ marks)).map .mark) :
    Cuts chars True tokens := by
  have each : Cuts (pairs.flatMap fun pair => pair.1.toList ++ pair.2.toList) (∀ pair ∈ pairs, True)
      (pairs.flatMap fun pair => .name pair.1.toList :: (pair.2.toList.filter (· ∈ marks)).map .mark) := by
    refine flatMap fun pair inside => ?_
    obtain ⟨isName, nonEmpty, ends, marked⟩ := sound pair inside
    exact name isName (punctuation _ marked) ends nonEmpty
  rw [isText, areTokens]
  exact (punctuation _ plain).append_always (by simpa using each)

theorem comment (line : List Char) (oneLine : ∀ c ∈ line, isLineEnd c = false) :
    Cuts ('/' :: '/' :: (line ++ ['\n'])) True [] := by
  refine of_whole fun rest => ?_
  rw [List.cons_append, List.cons_append, List.append_assoc, List.singleton_append, read?_comment oneLine]
  simp

/-- A text in quotes that ends at its closing mark, or at no mark at all. -/
theorem quoted {mark : Char} {units : List Nat} (isQuote : mark = '\x27' ∨ mark = '"')
    (whole : legible → ∀ rest, inside? mark (chars ++ rest) = some (units, rest))
    (broken : ¬ legible → ∀ rest, inside? mark (chars ++ rest) = none) :
    Cuts (mark :: chars) legible [.text units] where
  whole holds rest := by
    rw [List.cons_append, read?_quote isQuote, whole holds rest]
    rfl
  broken fails rest := by
    rw [List.cons_append, read?_quote isQuote, broken fails rest]
    rfl

end Cuts

/-! ## Texts in single quotes -/

/-- A carriage return is the one line end that is left as it is, and no part of a string. -/
theorem spells_escape {c : Char} (noReturn : c ≠ '\r') : Spells '\x27' c (escape c) := by
  unfold escape
  split
  · exact .escaped (by decide) fun _ => rfl
  · exact .escaped (by decide) fun _ => rfl
  · exact .escaped (by decide) fun _ => rfl
  · next noEscape noQuote noBreak => exact .itself noQuote noEscape ⟨noBreak, noReturn⟩

theorem cuts_string (text : String) :
    Cuts (string text).toList ('\r' ∉ text.toList) [.text (textUnits text.toList)] := by
  have inside (chars rest : List Char) : inside? '\x27' (chars.flatMap escape ++ '\x27' :: rest) =
      if '\r' ∈ chars then none else some (textUnits chars, rest) := by
    induction chars with
    | nil => exact inside?_mark rest
    | cons c more ih =>
        rw [List.flatMap_cons, List.append_assoc]
        by_cases isReturn : c = '\r'
        · subst isReturn
          rw [if_pos List.mem_cons_self]
          exact inside?_lineEnd (.inr rfl) (by decide) _
        · rw [inside?_spells (spells_escape isReturn), ih]
          simp only [List.mem_cons, Ne.symm isReturn, false_or]
          split <;> rfl
  rw [string, String.toList_ofList, stringChars, List.cons_append]
  refine .quoted (.inl rfl) (fun legible rest => ?_) (fun broken rest => ?_)
  · rw [List.append_assoc, List.singleton_append, inside, if_neg legible]
  · rw [List.append_assoc, List.singleton_append, inside, if_pos (not_not.1 broken)]

end Token

end QueryHooks.TypeScript
