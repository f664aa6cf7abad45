import Mathlib.Data.List.Basic
import QueryHooks.Proofs.TypeScript.IdentifierName
import QueryHooks.TypeScript.PathExpression

/-!
String and template literals as the language reads them, character by character. A literal denotes code units of UTF-16,
and what a template has in place of a value is known by the member that it reads.
-/

namespace QueryHooks.TypeScript

open QueryHooks.Text

/-! ## Code units -/

/-- The code units of a code point. -/
def pointUnits (point : Nat) : List Nat :=
  if point < 0x10000 then [point]
  else [0xd800 + (point - 0x10000) / 0x400, 0xdc00 + (point - 0x10000) % 0x400]

def charUnits (c : Char) : List Nat := pointUnits c.toNat

def textUnits (chars : List Char) : List Nat := chars.flatMap charUnits

@[simp] theorem textUnits_cons (c : Char) (chars : List Char) :
    textUnits (c :: chars) = charUnits c ++ textUnits chars := rfl

@[simp] theorem textUnits_append (chars chars' : List Char) :
    textUnits (chars ++ chars') = textUnits chars ++ textUnits chars' := List.flatMap_append

/-- A character is known by its first units: half a pair is no character of its own. -/
theorem charUnits_append_inj {c d : Char} {units units' : List Nat}
    (same : charUnits c ++ units = charUnits d ++ units') : c = d ∧ units = units' := by
  have whole (c : Char) : c.toNat < 0xd800 ∨ 0xdfff < c.toNat ∧ c.toNat < 0x110000 := c.valid
  have known := whole c
  have known' := whole d
  unfold charUnits pointUnits at same
  split at same <;> split at same <;>
    simp only [List.cons_append, List.nil_append, List.cons.injEq] at same
  · exact ⟨Char.toNat_inj.1 same.1, same.2⟩
  · omega
  · omega
  · exact ⟨Char.toNat_inj.1 (by omega), same.2.2⟩

theorem charUnits_ne_nil (c : Char) : charUnits c ≠ [] := by
  unfold charUnits pointUnits
  split <;> exact List.cons_ne_nil _ _

theorem textUnits_injective : Function.Injective textUnits := by
  intro chars chars' same
  induction chars generalizing chars' with
  | nil =>
      cases chars' with
      | nil => rfl
      | cons d rest => exact absurd (List.append_eq_nil_iff.1 same.symm).1 (charUnits_ne_nil d)
  | cons c rest ih =>
      cases chars' with
      | nil => exact absurd (List.append_eq_nil_iff.1 same).1 (charUnits_ne_nil c)
      | cons d rest' =>
          obtain ⟨first, later⟩ := charUnits_append_inj same
          rw [first, ih later]

/-! ## Escapes -/

/-- The value of so many hexadecimal digits, given what came before them, and the text after them. -/
def hexDigits? : Nat → Nat → List Char → Option (Nat × List Char)
  | 0, value, rest => some (value, rest)
  | _ + 1, _, [] => none
  | count + 1, value, c :: rest =>
      match hexValue? c with
      | some digit => hexDigits? count (16 * value + digit) rest
      | none => none

/-- The code point that hexadecimal digits give up to a closing brace. -/
def bracedPoint? (value : Nat) : List Char → Option (Nat × List Char)
  | [] => none
  | c :: rest =>
      if c == '\x7d' then some (value, rest)
      else
        match hexValue? c with
        | some digit => if 16 * value + digit ≤ 0x10ffff then bracedPoint? (16 * value + digit) rest else none
        | none => none

/-- What is left out of a literal together with the backslash before it. -/
def continuation? : List Char → Option (List Char)
  | '\r' :: '\n' :: rest => some rest
  | c :: rest => if c ∈ ['\n', '\r', '\u2028', '\u2029'] then some rest else none
  | [] => none

/-- The letters that mean control characters after a backslash. -/
def controlLetters : List (Char × Nat) := [('b', 8), ('t', 9), ('n', 10), ('v', 11), ('f', 12), ('r', 13)]

/-- The code point after a backslash that is written by digits, or by a letter. -/
def coded? : List Char → Option (Nat × List Char)
  | 'x' :: rest => hexDigits? 2 0 rest
  | 'u' :: '\x7b' :: rest => if rest.head? == some '\x7d' then none else bracedPoint? 0 rest
  | 'u' :: rest => hexDigits? 4 0 rest
  | '0' :: rest => if rest.head?.any isAsciiDigit then none else some (0, rest)
  | c :: rest => (controlLetters.lookup c).map fun point => (point, rest)
  | [] => none

/-- The code units for what follows a backslash, and the text after it. -/
def escape? (chars : List Char) : Option (List Nat × List Char) :=
  match continuation? chars with
  | some rest => some ([], rest)
  | none =>
      match chars with
      | [] => none
      | c :: rest =>
          if c == 'x' || c == 'u' || isAsciiDigit c || (controlLetters.lookup c).isSome then
            (coded? chars).map fun (point, after) => (pointUnits point, after)
          else some (charUnits c, rest)

/-! ## Literals -/

/-- What is written in a literal: a code unit, or the member that is read in this place. -/
inductive Written
  | code (unit : Nat)
  | member (name : List Char)
deriving DecidableEq, Repr

inductive LiteralKind
  | string
  | template
deriving DecidableEq, Repr

def LiteralKind.mark : LiteralKind → Char
  | .string => '\x27'
  | .template => '\x60'

/--
The member that a template reads from an object: its name as long as it can be, with an empty text in place of none or
without, and the text after the closing brace.
-/
def substitution? (accessor : Accessor) (chars : List Char) : Option (List Char × List Char) :=
  match chars.dropPrefix? (accessor.read "").toList with
  | none => none
  | some rest =>
      if isIdentifierName (rest.takeWhile isIdContinue) then
        match rest.dropWhile isIdContinue with
        | '\x7d' :: after => some (rest.takeWhile isIdContinue, after)
        | ' ' :: '?' :: '?' :: ' ' :: '\x27' :: '\x27' :: '\x7d' :: after =>
            some (rest.takeWhile isIdContinue, after)
        | _ => none
      else none

/-! ## What is read, and how far -/

theorem hexDigits?_spec {count value point : Nat} {chars after : List Char}
    (found : hexDigits? count value chars = some (point, after)) :
    ∃ used, chars = used ++ after ∧ used.length = count ∧ ∀ c ∈ used, (hexValue? c).isSome = true := by
  induction count generalizing value chars with
  | zero =>
      obtain ⟨-, rfl⟩ := Prod.mk.inj (Option.some.inj found)
      exact ⟨[], rfl, rfl, fun _ inside => nomatch inside⟩
  | succ count ih =>
      cases chars with
      | nil => cases found
      | cons c rest =>
          rw [hexDigits?] at found
          split at found
          · next digit isDigit =>
              obtain ⟨used, rfl, length, digits⟩ := ih found
              refine ⟨c :: used, rfl, congrArg (· + 1) length, List.forall_mem_cons.2 ⟨?_, digits⟩⟩
              rw [isDigit, Option.isSome_some]
          · cases found

theorem bracedPoint?_spec {value point : Nat} {chars after : List Char}
    (found : bracedPoint? value chars = some (point, after)) :
    ∃ used, chars = used ++ '\x7d' :: after ∧ ∀ c ∈ used, (hexValue? c).isSome = true := by
  induction chars generalizing value with
  | nil => cases found
  | cons c rest ih =>
      rw [bracedPoint?] at found
      split at found
      · next closes =>
          obtain ⟨-, rfl⟩ := Prod.mk.inj (Option.some.inj found)
          exact ⟨[], by rw [beq_iff_eq.1 closes]; rfl, fun _ inside => nomatch inside⟩
      · split at found
        · next digit isDigit =>
            split at found
            · obtain ⟨used, rfl, digits⟩ := ih found
              refine ⟨c :: used, rfl, List.forall_mem_cons.2 ⟨?_, digits⟩⟩
              rw [isDigit, Option.isSome_some]
            · cases found
        · cases found

/-- The characters that end a literal, and the one that starts what is put in. -/
def isMark (c : Char) : Bool := c == '$' || c == '\x27' || c == '\x60'

theorem isMark_of_hexDigit {c : Char} (digit : (hexValue? c).isSome = true) : isMark c = false := by
  cases mark : isMark c with
  | false => rfl
  | true =>
      rw [isMark, Bool.or_eq_true, Bool.or_eq_true, beq_iff_eq, beq_iff_eq, beq_iff_eq] at mark
      rcases mark with (rfl | rfl) | rfl <;> cases digit

theorem coded?_spec {chars after : List Char} {point : Nat} (found : coded? chars = some (point, after)) :
    ∃ used, chars = used ++ after ∧ used ≠ [] ∧ ∀ c ∈ used, isMark c = false := by
  have letter {c : Char} {used : List Char} (plain : isMark c = false) (digits : ∀ d ∈ used, isMark d = false) :
      ∀ d ∈ c :: used, isMark d = false :=
    List.forall_mem_cons.2 ⟨plain, digits⟩
  unfold coded? at found
  split at found
  · obtain ⟨used, rfl, -, digits⟩ := hexDigits?_spec found
    exact ⟨_, rfl, List.cons_ne_nil _ _, letter rfl fun d inside => isMark_of_hexDigit (digits d inside)⟩
  · split at found
    · cases found
    · obtain ⟨used, rfl, digits⟩ := bracedPoint?_spec found
      refine ⟨'u' :: '\x7b' :: (used ++ ['\x7d']), by simp, List.cons_ne_nil _ _, letter rfl (letter rfl ?_)⟩
      intro d inside
      rcases List.mem_append.1 inside with digit | last
      · exact isMark_of_hexDigit (digits d digit)
      · rw [List.mem_singleton.1 last]
        rfl
  · obtain ⟨used, rfl, -, digits⟩ := hexDigits?_spec found
    exact ⟨_, rfl, List.cons_ne_nil _ _, letter rfl fun d inside => isMark_of_hexDigit (digits d inside)⟩
  · split at found
    · cases found
    · obtain ⟨-, rfl⟩ := Prod.mk.inj (Option.some.inj found)
      exact ⟨['0'], rfl, List.cons_ne_nil _ _, letter rfl fun _ inside => nomatch inside⟩
  · next c rest _ _ _ _ =>
      obtain ⟨control, listed, same⟩ := Option.map_eq_some_iff.1 found
      obtain ⟨-, rfl⟩ := Prod.mk.inj same
      obtain ⟨before, behind, whole, -⟩ := List.lookup_eq_some_iff.1 listed
      have plain : ∀ entry ∈ controlLetters, isMark entry.1 = false := by decide
      refine ⟨[c], rfl, List.cons_ne_nil _ _, letter (plain (c, control) ?_) fun _ inside => nomatch inside⟩
      rw [whole]
      exact List.mem_append_right _ List.mem_cons_self
  · cases found

theorem continuation?_spec {chars after : List Char} (found : continuation? chars = some after) :
    ∃ used, chars = used ++ after ∧ used ≠ [] ∧ ∀ c ∈ used, isMark c = false := by
  unfold continuation? at found
  split at found
  · obtain rfl := Option.some.inj found
    exact ⟨['\r', '\n'], rfl, List.cons_ne_nil _ _, by decide⟩
  · next c rest _ =>
      split at found
      · next breaks =>
          obtain rfl := Option.some.inj found
          have plain : ∀ c ∈ ['\n', '\r', '\u2028', '\u2029'], isMark c = false := by decide
          exact ⟨[c], rfl, List.cons_ne_nil _ _, fun d inside => List.mem_singleton.1 inside ▸ plain c breaks⟩
      · cases found
  · cases found

/-- What follows a backslash in an escape, and its units: a character for itself, or a code of one point at most. -/
inductive Escape : List Char → List Nat → Prop
  | itself (c : Char) : Escape [c] (charUnits c)
  | coded {used : List Char} {units : List Nat} (nonEmpty : used ≠ []) (plain : ∀ c ∈ used, isMark c = false)
      (short : units = [] ∨ ∃ point, units = pointUnits point) : Escape used units

theorem escape?_spec {chars after : List Char} {units : List Nat} (found : escape? chars = some (units, after)) :
    ∃ used, chars = used ++ after ∧ Escape used units := by
  unfold escape? at found
  split at found
  · next rest continues =>
      obtain ⟨rfl, rfl⟩ := Prod.mk.inj (Option.some.inj found)
      obtain ⟨used, whole, nonEmpty, plain⟩ := continuation?_spec continues
      exact ⟨used, whole, .coded nonEmpty plain (.inl rfl)⟩
  · split at found
    · cases found
    · next c rest _ =>
        split at found
        · obtain ⟨⟨point, last⟩, isCode, same⟩ := Option.map_eq_some_iff.1 found
          obtain ⟨rfl, rfl⟩ := Prod.mk.inj same
          obtain ⟨used, whole, nonEmpty, plain⟩ := coded?_spec isCode
          exact ⟨used, whole, .coded nonEmpty plain (.inr ⟨point, rfl⟩)⟩
        · obtain ⟨rfl, rfl⟩ := Prod.mk.inj (Option.some.inj found)
          exact ⟨[c], rfl, .itself c⟩

theorem escape?_length {chars after : List Char} {units : List Nat} (found : escape? chars = some (units, after)) :
    after.length < chars.length := by
  obtain ⟨used, rfl, escape⟩ := escape?_spec found
  have positive : 0 < used.length := by
    cases escape with
    | itself => exact Nat.one_pos
    | coded nonEmpty => exact List.length_pos_iff.2 nonEmpty
  rw [List.length_append]
  omega

/-- What stands after the name of a member that a template reads. -/
def substitutionEnds : List (List Char) := ["\x7d".toList, " ?? \x27\x27\x7d".toList]

theorem takeWhile_name {name rest : List Char} (isName : isIdentifierName name = true)
    (ends : rest.head?.any isIdContinue = false) :
    (name ++ rest).takeWhile isIdContinue = name ∧ (name ++ rest).dropWhile isIdContinue = rest := by
  rw [isIdentifierName_eq, Bool.and_eq_true] at isName
  have all := List.all_eq_true.1 isName.2
  rw [List.takeWhile_append_of_pos all, List.dropWhile_append_of_pos all]
  cases rest with
  | nil => exact ⟨List.append_nil _, rfl⟩
  | cons c rest =>
      have stops : ¬ isIdContinue c = true := by simpa using ends
      rw [List.takeWhile_cons_of_neg stops, List.dropWhile_cons_of_neg stops, List.append_nil]
      exact ⟨rfl, rfl⟩

/-- A template reads a member exactly if the text is written as such a reading. -/
theorem substitution?_iff {accessor : Accessor} {chars name after : List Char} :
    substitution? accessor chars = some (name, after) ↔ isIdentifierName name = true ∧
      ∃ ending ∈ substitutionEnds, chars = (accessor.read "").toList ++ (name ++ (ending ++ after)) := by
  constructor
  · intro found
    unfold substitution? at found
    split at found
    · cases found
    · next rest dropped =>
        obtain ⟨opening, rfl, same⟩ := List.dropPrefix?_eq_some_iff.1 dropped
        have whole := List.takeWhile_append_dropWhile (p := isIdContinue) (l := rest)
        rw [eq_of_beq same]
        split at found
        · next isName =>
            split at found
            · next last ends =>
                obtain ⟨rfl, rfl⟩ := Prod.mk.inj (Option.some.inj found)
                rw [ends] at whole
                exact ⟨isName, _, List.mem_cons_self, congrArg (_ ++ ·) whole.symm⟩
            · next last ends =>
                obtain ⟨rfl, rfl⟩ := Prod.mk.inj (Option.some.inj found)
                rw [ends] at whole
                exact ⟨isName, _, List.mem_cons_of_mem _ List.mem_cons_self, congrArg (_ ++ ·) whole.symm⟩
            · cases found
        · cases found
  · rintro ⟨isName, ending, listed, rfl⟩
    have dropped : ((accessor.read "").toList ++ (name ++ (ending ++ after))).dropPrefix? (accessor.read "").toList =
        some (name ++ (ending ++ after)) := List.dropPrefix?_append_of_beq _ (beq_self_eq_true _)
    have ends : (ending ++ after).head?.any isIdContinue = false := by
      rcases List.mem_cons.1 listed with rfl | other
      · exact (by decide : isIdContinue '\x7d' = false)
      · rw [List.mem_singleton.1 other]
        exact (by decide : isIdContinue ' ' = false)
    obtain ⟨isFirst, isRest⟩ := takeWhile_name isName ends
    unfold substitution?
    rw [dropped]
    simp only [isFirst, isRest, isName, if_true]
    rcases List.mem_cons.1 listed with rfl | other
    · rfl
    · rw [List.mem_singleton.1 other]
      rfl

theorem substitution?_length {accessor : Accessor} {chars name after : List Char}
    (found : substitution? accessor chars = some (name, after)) : after.length < chars.length := by
  obtain ⟨isName, ending, -, rfl⟩ := substitution?_iff.1 found
  have positive : 0 < name.length := by
    cases name with
    | nil => cases isName
    | cons c rest => exact Nat.succ_pos _
  simp only [List.length_append]
  omega

/-! ## Reading to the end -/

/-- The text after a line break, of which a carriage return and a line feed are one. -/
def afterBreak (c : Char) (rest : List Char) : List Char :=
  if c == '\r' && rest.head? == some '\n' then rest.tail else rest

theorem afterBreak_length (c : Char) (rest : List Char) : (afterBreak c rest).length ≤ rest.length := by
  unfold afterBreak
  split
  · rw [List.length_tail]
    omega
  · exact Nat.le_refl _

def startsSubstitution (kind : LiteralKind) (c : Char) (rest : List Char) : Bool :=
  c == '$' && kind == .template && rest.head? == some '\x7b'

/--
What is written in a literal, read after its opening mark. It must be closed by the last character. Line breaks are no
part of strings, and in templates each is a line feed.
-/
def written? (kind : LiteralKind) (accessor : Accessor) (chars : List Char) : Option (List Written) :=
  match chars with
  | [] => none
  | c :: rest =>
      if c == kind.mark then if rest.isEmpty then some [] else none
      else if c == '\\' then
        match _found : escape? rest with
        | some (units, after) => (written? kind accessor after).map (units.map .code ++ ·)
        | none => none
      else if startsSubstitution kind c rest then
        match _found : substitution? accessor rest.tail with
        | some (name, after) => (written? kind accessor after).map (.member name :: ·)
        | none => none
      else if c == '\n' || c == '\r' then
        if kind == .string then none else (written? kind accessor (afterBreak c rest)).map (.code 10 :: ·)
      else (written? kind accessor rest).map ((charUnits c).map .code ++ ·)
termination_by chars.length
decreasing_by
  · have := escape?_length _found
    simp only [List.length_cons]
    omega
  · have := substitution?_length _found
    simp only [List.length_cons, List.length_tail] at this ⊢
    omega
  · have := afterBreak_length c rest
    simp only [List.length_cons]
    omega
  · simp

/-- What is written in a literal, from its first character to its last. -/
def Written.read? (accessor : Accessor) : List Char → Option (List Written)
  | [] => none
  | c :: rest =>
      if c == LiteralKind.string.mark then written? .string accessor rest
      else if c == LiteralKind.template.mark then written? .template accessor rest
      else none

/-- The code units that are written, with the name of each member that is read in braces in its place. -/
def Written.putBack (parts : List Written) : List Nat :=
  parts.flatMap fun part =>
    match part with
    | .code unit => [unit]
    | .member name => textUnits ('\x7b' :: (name ++ ['\x7d']))

section

variable {kind : LiteralKind} {accessor : Accessor} {c : Char} {rest : List Char}

theorem written?_mark : written? kind accessor [kind.mark] = some [] := by
  rw [written?, beq_self_eq_true, if_pos rfl]
  rfl

theorem written?_mark_cons (more : rest ≠ []) : written? kind accessor (kind.mark :: rest) = none := by
  rw [written?, beq_self_eq_true, if_pos rfl, if_neg]
  rw [List.isEmpty_iff]
  exact more

theorem written?_escape : written? kind accessor ('\\' :: rest) =
    (escape? rest).bind fun (units, after) => (written? kind accessor after).map (units.map .code ++ ·) := by
  have noMark : ('\\' == kind.mark) = false := by cases kind <;> rfl
  rw [written?, noMark, if_neg (by decide), beq_self_eq_true, if_pos rfl]
  split
  · next found => rw [found]; rfl
  · next found => rw [found]; rfl

theorem written?_substitution : written? .template accessor ('$' :: '\x7b' :: rest) =
    (substitution? accessor rest).bind fun (name, after) =>
      (written? .template accessor after).map (.member name :: ·) := by
  have starts : startsSubstitution .template '$' ('\x7b' :: rest) = true := rfl
  rw [written?, if_neg (by decide), if_neg (by decide), starts, if_pos rfl, List.tail_cons]
  split
  · next found => rw [found]; rfl
  · next found => rw [found]; rfl

theorem written?_lineBreak (breaks : c = '\n' ∨ c = '\r') : written? .template accessor (c :: rest) =
    (written? .template accessor (afterBreak c rest)).map (.code 10 :: ·) := by
  have noStart : startsSubstitution .template c rest = false := by rcases breaks with rfl | rfl <;> rfl
  rw [written?, noStart]
  rcases breaks with rfl | rfl <;> rfl

theorem written?_lineBreak_string (breaks : c = '\n' ∨ c = '\r') :
    written? .string accessor (c :: rest) = none := by
  have noStart : startsSubstitution .string c rest = false := by rcases breaks with rfl | rfl <;> rfl
  rw [written?, noStart]
  rcases breaks with rfl | rfl <;> rfl

/-- A character that means itself: no mark, no backslash, no line break and no start of what is put in. -/
theorem written?_plain (noMark : c ≠ kind.mark) (noEscape : c ≠ '\\') (noBreak : c ≠ '\n' ∧ c ≠ '\r')
    (noStart : startsSubstitution kind c rest = false) : written? kind accessor (c :: rest) =
      (written? kind accessor rest).map ((charUnits c).map .code ++ ·) := by
  have noLine : (c == '\n' || c == '\r') = false := by
    rw [Bool.or_eq_false_iff, beq_eq_false_iff_ne, beq_eq_false_iff_ne]
    exact noBreak
  rw [written?, beq_eq_false_iff_ne.2 noMark, if_neg (by decide), beq_eq_false_iff_ne.2 noEscape,
    if_neg (by decide), noStart, if_neg (by decide), noLine, if_neg (by decide)]

end

end QueryHooks.TypeScript
