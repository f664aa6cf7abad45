import Mathlib.Data.List.TakeWhile
import QueryHooks.Proofs.Naming.Characters
import QueryHooks.Proofs.TypeScript.Lines

/-!
References to query keys in source text: `queryKeys`, and after a dot each the name of a namespace and
the name of one of its members. They are read as text, so one inside a literal or a comment counts as
well.
-/

namespace QueryHooks.TypeScript.KeyReferences

open QueryHooks.Naming (IsName isNameChar)

variable {c : Char} {chars rest : List Char}

/-- The characters that can go on a name. -/
def isPart (c : Char) : Bool := isNameChar c || c == '$'

/-- The object that keys are read from. -/
def object : List Char := "queryKeys".toList

/-- The two names that a text starts with, a dot between them. Each is as long as it can be. -/
def names? (chars : List Char) : Option (String × String) :=
  match chars.dropWhile isPart with
  | '.' :: after => some (String.ofList (chars.takeWhile isPart), String.ofList (after.takeWhile isPart))
  | _ => none

/-- The reference that a text starts with. -/
def start? (chars : List Char) : Option (String × String) :=
  if object ++ ['.'] <+: chars then names? (chars.drop (object ++ ['.']).length) else none

/-- The references in a text, in order. -/
def ofChars : List Char → List (String × String)
  | [] => []
  | c :: rest => (start? (c :: rest)).toList ++ ofChars rest

def ofText (text : String) : List (String × String) := ofChars text.toList

/-- Whether no reference goes on over a character. -/
def isBreak (c : Char) : Bool := !isPart c && c != '.'

theorem start?_of_ne (other : c ≠ 'q') : start? (c :: rest) = none := by
  rw [start?, if_neg]
  intro begins
  have first : object ++ ['.'] = 'q' :: "ueryKeys.".toList := rfl
  rw [first, List.cons_prefix_cons] at begins
  exact other begins.1.symm

/-- Text without the first letter of the object starts no reference. -/
theorem ofChars_append_of_not_mem (free : 'q' ∉ chars) : ofChars (chars ++ rest) = ofChars rest := by
  induction chars with
  | nil => rfl
  | cons c others ih =>
      obtain ⟨other, later⟩ := List.ne_and_not_mem_of_not_mem_cons free
      rw [List.cons_append, ofChars, start?_of_ne other.symm, ih later]
      rfl

theorem prefix_append_iff {begins : List Char} (foreign : c ∉ begins) :
    begins <+: chars ++ c :: rest ↔ begins <+: chars := by
  constructor
  · intro whole
    induction begins generalizing chars with
    | nil => exact List.nil_prefix
    | cons d others ih =>
        obtain ⟨other, later⟩ := List.ne_and_not_mem_of_not_mem_cons foreign
        cases chars with
        | nil => exact absurd (List.cons_prefix_cons.1 whole).1.symm other
        | cons e more =>
            rw [List.cons_append, List.cons_prefix_cons] at whole
            exact List.cons_prefix_cons.2 ⟨whole.1, ih later whole.2⟩
  · exact fun begins => begins.trans (List.prefix_append _ _)

theorem isPart_of_isBreak (breaks : isBreak c = true) : isPart c = false ∧ c ≠ '.' := by
  simpa [isBreak] using breaks

theorem not_mem_of_isBreak (breaks : isBreak c = true) : c ∉ object ++ ['.'] := by
  have parts : ∀ d ∈ object ++ ['.'], isBreak d = false := by decide
  intro inside
  rw [parts c inside] at breaks
  cases breaks

theorem takeWhile_append_break (breaks : isBreak c = true) :
    (chars ++ c :: rest).takeWhile isPart = chars.takeWhile isPart := by
  have ends := (isPart_of_isBreak breaks).1
  induction chars with
  | nil => rw [List.nil_append, List.takeWhile_cons, ends]; rfl
  | cons d others ih => rw [List.cons_append, List.takeWhile_cons, List.takeWhile_cons, ih]

theorem dropWhile_append_break (breaks : isBreak c = true) :
    (chars ++ c :: rest).dropWhile isPart = chars.dropWhile isPart ++ c :: rest := by
  have ends := (isPart_of_isBreak breaks).1
  induction chars with
  | nil => rw [List.nil_append, List.dropWhile_cons, ends]; rfl
  | cons d others ih =>
      rw [List.cons_append, List.dropWhile_cons, List.dropWhile_cons, ih]
      split <;> rfl

theorem names?_append (breaks : isBreak c = true) : names? (chars ++ c :: rest) = names? chars := by
  have dotless := (isPart_of_isBreak breaks).2
  simp only [names?, takeWhile_append_break breaks, dropWhile_append_break breaks]
  cases chars.dropWhile isPart with
  | nil =>
      rw [List.nil_append]
      split
      · next same => exact absurd (List.cons.inj same).1 dotless
      · rfl
  | cons d after =>
      rw [List.cons_append]
      by_cases dot : d = '.'
      · subst dot
        simp only [takeWhile_append_break breaks]
      · split
        · next same => exact absurd (List.cons.inj same).1 dot
        · split
          · next same => exact absurd (List.cons.inj same).1 dot
          · rfl

theorem start?_append (breaks : isBreak c = true) : start? (chars ++ c :: rest) = start? chars := by
  by_cases begins : object ++ ['.'] <+: chars
  · rw [start?, start?, if_pos begins, if_pos ((prefix_append_iff (not_mem_of_isBreak breaks)).2 begins),
      List.drop_append_of_le_length begins.length_le, names?_append breaks]
  · rw [start?, start?, if_neg begins,
      if_neg fun whole => begins ((prefix_append_iff (not_mem_of_isBreak breaks)).1 whole)]

/-- What stands on two sides of a break has its references on its own. -/
theorem ofChars_append_break (breaks : isBreak c = true) :
    ofChars (chars ++ c :: rest) = ofChars chars ++ ofChars rest := by
  induction chars with
  | nil =>
      have other : c ≠ 'q' := by
        rintro rfl
        exact absurd breaks (by decide)
      rw [List.nil_append, ofChars.eq_2, start?_of_ne other]
      rfl
  | cons d others ih =>
      rw [List.cons_append, ofChars, ← List.cons_append, start?_append breaks, ih, ofChars,
        List.append_assoc]

theorem ofChars_cons_break (breaks : isBreak c = true) : ofChars (c :: rest) = ofChars rest := by
  have alone : ofChars ([] ++ c :: rest) = ofChars [] ++ ofChars rest := ofChars_append_break breaks
  exact alone

theorem ofChars_lines (lines : List (List Char)) :
    ofChars (lines.flatMap (· ++ ['\n'])) = lines.flatMap ofChars := by
  induction lines with
  | nil => rfl
  | cons line rest ih =>
      rw [List.flatMap_cons, List.flatMap_cons, List.append_assoc, List.singleton_append,
        ofChars_append_break (by decide), ih]

theorem ofText_text (code : List Code) : ofText (Code.text code) = (Code.allLines 0 code).flatMap ofChars := by
  rw [ofText, Code.toList_text, ofChars_lines]

@[simp] theorem ofChars_indent (depth : Nat) (text : String) :
    ofChars (Code.indent depth ++ text).toList = ofText text := by
  have blanks (count : Nat) : ofChars (List.replicate count ' ' ++ text.toList) = ofText text := by
    induction count with
    | zero => rfl
    | succ count ih =>
        rw [List.replicate_succ, List.cons_append, ofChars_cons_break (by decide), ih]
  rw [String.toList_append, Code.indent, String.toList_ofList, blanks]

/-- Without two dots there is no reference. -/
theorem ofChars_of_count (few : chars.count '.' < 2) : ofChars chars = [] := by
  induction chars with
  | nil => rfl
  | cons c others ih =>
      have fewer : others.count '.' < 2 := Nat.lt_of_le_of_lt (List.count_le_count_cons ..) few
      have none : start? (c :: others) = none := by
        rw [start?]
        split
        · next begins =>
            obtain ⟨names, whole⟩ := begins
            have dots : names.count '.' = 0 := by
              have object : (object ++ ['.']).count '.' = 1 := by decide
              rw [← whole, List.count_append, object] at few
              omega
            rw [← whole, List.drop_left, names?]
            split
            · next after dropped =>
                have inside : '.' ∈ names := (List.dropWhile_sublist isPart).subset (dropped ▸ List.mem_cons_self)
                exact absurd inside (List.count_eq_zero.1 dots)
            · rfl
        · rfl
      rw [ofChars, none, ih fewer]
      rfl

/-- Text that does not name the object has no reference. -/
theorem ofChars_of_not_infix (silent : ¬ object <:+: chars) : ofChars chars = [] := by
  induction chars with
  | nil => rfl
  | cons c others ih =>
      have none : start? (c :: others) = none := by
        rw [start?, if_neg]
        intro begins
        exact silent ((List.prefix_append object ['.']).trans begins).isInfix
      rw [ofChars, none, ih fun later => silent (later.trans (List.suffix_cons c others).isInfix)]
      rfl

theorem isPart_of_isName {name : List Char} (named : IsName name) : ∀ c ∈ name, isPart c = true := by
  intro c inside
  rw [isPart, named c inside]
  rfl

theorem names?_of_isName {first second : List Char} (namespaceNamed : IsName first) (named : IsName second) :
    names? (first ++ '.' :: second) = some (String.ofList first, String.ofList second) := by
  have ends : isPart '.' = false := by decide
  have all : second.takeWhile isPart = second := List.takeWhile_eq_self_iff.2 (isPart_of_isName named)
  simp only [names?, List.takeWhile_append_of_pos (isPart_of_isName namespaceNamed),
    List.dropWhile_append_of_pos (isPart_of_isName namespaceNamed), List.takeWhile_cons, List.dropWhile_cons, ends,
    Bool.false_eq_true, if_false, List.append_nil, all]

/-- The reference that is written for a name in a namespace. -/
theorem ofText_reference {first second : String} (namespaceNamed : IsName first.toList)
    (named : IsName second.toList) :
    ofText ("queryKeys." ++ first ++ "." ++ second) = [(first, second)] := by
  have dot : ".".toList = ['.'] := rfl
  have begins : "queryKeys.".toList = 'q' :: "ueryKeys.".toList := rfl
  have whole : ("queryKeys." ++ first ++ "." ++ second).toList =
      'q' :: ("ueryKeys.".toList ++ (first.toList ++ '.' :: second.toList)) := by
    simp only [String.toList_append, dot, begins, List.append_assoc, List.cons_append, List.nil_append]
  have here : start? ('q' :: ("ueryKeys.".toList ++ (first.toList ++ '.' :: second.toList))) =
      some (first, second) := by
    have starts : object ++ ['.'] <+: 'q' :: ("ueryKeys.".toList ++ (first.toList ++ '.' :: second.toList)) :=
      ⟨_, rfl⟩
    rw [start?, if_pos starts]
    have dropped : ('q' :: ("ueryKeys.".toList ++ (first.toList ++ '.' :: second.toList))).drop
        (object ++ ['.']).length = first.toList ++ '.' :: second.toList := rfl
    rw [dropped, names?_of_isName namespaceNamed named, String.ofList_toList, String.ofList_toList]
  have few : (first.toList ++ '.' :: second.toList).count '.' < 2 := by
    have none (chars : List Char) (isName : IsName chars) : chars.count '.' = 0 :=
      List.count_eq_zero.2 (isName.not_mem (by decide))
    rw [List.count_append, List.count_cons_self, none _ namespaceNamed, none _ named]
    decide
  rw [ofText, whole, ofChars, here, ofChars_append_of_not_mem (by decide), ofChars_of_count few]
  rfl

end QueryHooks.TypeScript.KeyReferences
