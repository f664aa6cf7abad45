import Mathlib.Data.List.Infix
import Mathlib.Data.List.TakeDrop
import Mathlib.Data.List.TakeWhile
import QueryHooks.Json.Reader
import QueryHooks.Proofs.Failure

/-! The limits of reading JSON: how long a numeral may be, and how deep collections may lie inside each other. -/

namespace QueryHooks.Json

theorem digitsOf_ones (n : Nat) (rest : List Char) :
    digitsOf (List.replicate n '1' ++ '\x7d' :: rest) = (List.replicate n '1', '\x7d' :: rest) := by
  rw [digitsOf, List.span_eq_takeWhile_dropWhile]
  have all : ∀ c ∈ List.replicate n '1', Text.isAsciiDigit c = true := by
    intro c inside
    rw [List.eq_of_mem_replicate inside]
    decide
  rw [List.takeWhile_append_of_pos all, List.dropWhile_append_of_pos all]
  have stop : Text.isAsciiDigit '\x7d' = false := by decide
  rw [List.takeWhile_cons_of_neg (by simp [stop]), List.dropWhile_cons_of_neg (by simp [stop]), List.append_nil]

theorem numeral_ones (n : Nat) (rest : List Char) :
    numeral? (List.replicate (n + 1) '1' ++ '\x7d' :: rest) =
      some (⟨false, List.replicate (n + 1) '1', [], none, n + 1⟩, '\x7d' :: rest) := by
  have digits := digitsOf_ones (n + 1) rest
  rw [List.replicate_succ, List.cons_append] at digits ⊢
  simp [numeral?, digits, powerOf]

theorem value_ones (fuel depth position n : Nat) (rest : List Char) :
    value (fuel + 1) depth position (List.replicate (n + 1) '1' ++ '\x7d' :: rest) =
      if Text.Integer.maxDecimalDigits < n + 1 then .error (.longNumeral (n + 1))
      else .ok ⟨.int (Int.ofNat (natOf (List.replicate (n + 1) '1'))), position + (n + 1), '\x7d' :: rest⟩ := by
  have numeral := numeral_ones n rest
  have noWord : word? (List.replicate (n + 1) '1' ++ '\x7d' :: rest) = none := rfl
  have isPlain : value (fuel + 1) depth position (List.replicate (n + 1) '1' ++ '\x7d' :: rest) =
      plain position (List.replicate (n + 1) '1' ++ '\x7d' :: rest) := by
    rw [List.replicate_succ, List.cons_append, value] <;> simp
  rw [isPlain, plain, noWord]
  simp only [numeral, Numeral.value, List.isEmpty_nil, Option.isNone_none, Bool.and_self, if_true, List.length_replicate]
  by_cases long : Text.Integer.maxDecimalDigits < n + 1
  · rw [if_pos long, if_pos long]
    rfl
  · rw [if_neg long, if_neg long]
    rfl

theorem read_ones (n : Nat) : read ("\x7b\"x\": ".toList ++ (List.replicate (n + 1) '1' ++ ['\x7d'])) =
    if Text.Integer.maxDecimalDigits < n + 1 then .error (.longNumeral (n + 1))
    else .ok (.map [(.text "x", .int (Int.ofNat (natOf (List.replicate (n + 1) '1'))))]) := by
  have shape : "\x7b\"x\": ".toList = ['\x7b', '"', 'x', '"', ':', ' '] := rfl
  have named : string 1 [] 2 ('x' :: '"' :: ':' :: ' ' :: (List.replicate (n + 1) '1' ++ ['\x7d'])) =
      .ok ⟨"x", 4, ':' :: ' ' :: (List.replicate (n + 1) '1' ++ ['\x7d'])⟩ := by
    rw [string, string] <;> simp
  have skipped (position : Nat) : skip position (List.replicate (n + 1) '1' ++ ['\x7d']) =
      (position, List.replicate (n + 1) '1' ++ ['\x7d']) := rfl
  have digits := value_ones (n + 6) 1 6 n []
  rw [shape]
  by_cases long : Text.Integer.maxDecimalDigits < n + 1
  · rw [if_pos long] at digits ⊢
    simp [read, value, members, named, digits, skip, skipped, isSpace, bind, Except.bind, maxDepth]
  · rw [if_neg long] at digits ⊢
    simp [read, value, members, named, digits, skip, skipped, isSpace, bind, Except.bind, pure, Except.pure, maxDepth,
      Value.ofPairs, Value.put]

/-! Texts within the limits are read, or they are malformed. -/

/-- How the level changes behind a character outside of strings, if it may stand there. -/
def levelAfter? (level : Nat) (c : Char) : Option Nat :=
  if c = '[' ∨ c = '\x7b' then if maxDepth ≤ level then none else some (level + 1)
  else if c = ']' ∨ c = '\x7d' then some (level - 1)
  else some level

/-- Whether brackets never nest too deep from a level on, those in strings aside. -/
def nestsWithin : Bool → Nat → List Char → Bool
  | true, level, '\\' :: _ :: rest => nestsWithin true level rest
  | true, level, c :: rest => nestsWithin (c != '"') level rest
  | false, level, c :: rest =>
      if c = '"' then nestsWithin true level rest
      else (levelAfter? level c).any fun level => nestsWithin false level rest
  | _, _, [] => true

/-- Whether no run of digits is longer than a limit, and brackets do not nest too deep, inside of a string or not. -/
structure KeepsTo (limit : Nat) (quoted : Bool) (level : Nat) (chars : List Char) : Prop where
  runs : ∀ digits, digits <:+: chars → (∀ c ∈ digits, Text.isAsciiDigit c = true) → digits.length ≤ limit
  nests : nestsWithin quoted level chars = true

def IsMalformed (fault : Fault) : Prop := ∃ problem position, fault = .malformed problem position

/-- Whether a fault is one of a text's form, or of a numeral that is too long and not beyond a limit. -/
def Explained (limit : Nat) (fault : Fault) : Prop :=
  IsMalformed fault ∨ ∃ digits, fault = .longNumeral digits ∧ Text.Integer.maxDecimalDigits < digits ∧ digits ≤ limit

/-- Whether a character neither opens nor closes anything. -/
def isNeutral (c : Char) : Bool := !(['"', '[', ']', '\x7b', '\x7d'].contains c)

theorem isNeutral_of_isSpace {c : Char} (space : isSpace c = true) : isNeutral c = true := by
  simp only [isSpace, Bool.or_eq_true, beq_iff_eq] at space
  rcases space with ((rfl | rfl) | rfl) | rfl <;> decide

namespace KeepsTo

variable {limit : Nat} {quoted other : Bool} {level next : Nat} {c : Char} {chars rest : List Char}

/-- No run of digits is too long in a text that is not. -/
theorem of_length (short : chars.length ≤ limit)
    (nests : nestsWithin quoted level chars = true) : KeepsTo limit quoted level chars where
  runs _ inside _ := inside.length_le.trans short
  nests := nests

theorem suffix (within : KeepsTo limit quoted level chars) (isSuffix : rest <:+ chars)
    (nests : nestsWithin other next rest = true) : KeepsTo limit other next rest where
  runs digits inside := within.runs digits (inside.trans isSuffix.isInfix)
  nests := nests

theorem neutral (within : KeepsTo limit false level (c :: rest)) (isNeutral : isNeutral c = true) :
    KeepsTo limit false level rest := by
  apply within.suffix (List.suffix_cons c rest)
  have nests := within.nests
  simp only [Json.isNeutral, List.contains_cons, List.contains_nil, Bool.or_false, Bool.not_eq_true',
    Bool.or_eq_false_iff, beq_eq_false_iff_ne] at isNeutral
  obtain ⟨quote, openList, closeList, openMap, closeMap⟩ := isNeutral
  simpa [nestsWithin, levelAfter?, quote, openList, closeList, openMap, closeMap] using nests

theorem neutrals {taken : List Char} (areNeutral : ∀ c ∈ taken, isNeutral c = true)
    (within : KeepsTo limit false level (taken ++ rest)) : KeepsTo limit false level rest := by
  induction taken with
  | nil => exact within
  | cons c taken ih =>
      have passed := within.neutral (areNeutral c List.mem_cons_self)
      exact ih (fun other later => areNeutral other (List.mem_cons_of_mem _ later)) passed

theorem opened (within : KeepsTo limit false level (c :: rest)) (opens : c = '[' ∨ c = '\x7b') :
    level < maxDepth ∧ KeepsTo limit false (level + 1) rest := by
  have nests := within.nests
  have noQuote : c ≠ '"' := by rcases opens with rfl | rfl <;> decide
  rw [nestsWithin, if_neg noQuote, levelAfter?, if_pos opens] at nests
  by_cases deep : maxDepth ≤ level
  · rw [if_pos deep] at nests
    cases nests
  · rw [if_neg deep] at nests
    exact ⟨Nat.lt_of_not_le deep, within.suffix (List.suffix_cons c rest) nests⟩

theorem closed (within : KeepsTo limit false (level + 1) (c :: rest)) (closes : c = ']' ∨ c = '\x7d') :
    KeepsTo limit false level rest := by
  apply within.suffix (List.suffix_cons c rest)
  have nests := within.nests
  rcases closes with rfl | rfl <;> simpa [nestsWithin, levelAfter?] using nests

theorem intoString (within : KeepsTo limit false level ('"' :: rest)) : KeepsTo limit true level rest :=
  within.suffix (List.suffix_cons _ rest) within.nests

theorem outOfString (within : KeepsTo limit true level ('"' :: rest)) : KeepsTo limit false level rest := by
  apply within.suffix (List.suffix_cons _ rest)
  have nests := within.nests
  rw [nestsWithin] at nests
  · exact nests
  · simp

theorem escaped (within : KeepsTo limit true level ('\\' :: c :: rest)) : KeepsTo limit true level rest :=
  within.suffix ⟨['\\', c], rfl⟩ within.nests

/-- A character in a string that is neither a quotation mark nor a backslash. -/
theorem letter (within : KeepsTo limit true level (c :: rest)) (noQuote : c ≠ '"') (noEscape : c ≠ '\\') :
    KeepsTo limit true level rest := by
  apply within.suffix (List.suffix_cons _ rest)
  have nests := within.nests
  rw [nestsWithin] at nests
  · rw [bne_iff_ne.2 noQuote] at nests
    exact nests
  · intro other later same
    exact absurd same noEscape

theorem skip (within : KeepsTo limit false level chars) (position : Nat) :
    KeepsTo limit false level (skip position chars).2 := by
  induction chars generalizing position with
  | nil => exact within
  | cons c rest ih =>
      rw [Json.skip]
      by_cases space : isSpace c = true
      · rw [if_pos space]
        exact ih (within.neutral (isNeutral_of_isSpace space)) (position + 1)
      · rw [if_neg space]
        exact within

end KeepsTo

theorem hexValue_ne {c : Char} {n : Nat} (isHex : Text.hexValue? c = some n) : c ≠ '"' ∧ c ≠ '\\' := by
  constructor <;> rintro rfl <;> cases isHex

/-- The digits of an escape are neither quotation marks nor backslashes. -/
theorem KeepsTo.codeUnit {limit level unit : Nat} {a b c d : Char} {rest : List Char}
    (isUnit : codeUnit? a b c d = some unit)
    (within : KeepsTo limit true level ('\\' :: 'u' :: a :: b :: c :: d :: rest)) : KeepsTo limit true level rest := by
  obtain ⟨first, isFirst, isUnit⟩ := Option.bind_eq_some_iff.1 isUnit
  obtain ⟨second, isSecond, isUnit⟩ := Option.bind_eq_some_iff.1 isUnit
  obtain ⟨third, isThird, isUnit⟩ := Option.bind_eq_some_iff.1 isUnit
  obtain ⟨fourth, isFourth, -⟩ := Option.bind_eq_some_iff.1 isUnit
  have afterA := within.escaped.letter (hexValue_ne isFirst).1 (hexValue_ne isFirst).2
  have afterB := afterA.letter (hexValue_ne isSecond).1 (hexValue_ne isSecond).2
  have afterC := afterB.letter (hexValue_ne isThird).1 (hexValue_ne isThird).2
  exact afterC.letter (hexValue_ne isFourth).1 (hexValue_ne isFourth).2

theorem ends_string {limit level start position : Nat} {seen chars : List Char} (within : KeepsTo limit true level chars) :
    Ends (string start seen position chars) (fun r => KeepsTo limit false level r.rest) (Explained limit) := by
  fun_induction string start seen position chars with
  | case1 => exact .error (.inl ⟨_, _, rfl⟩)
  | case2 => exact .ok within.outOfString
  | case3 => exact .error (.inl ⟨_, _, rfl⟩)
  | case4 => exact .error (.inl ⟨_, _, rfl⟩)
  | case5 seen position a b c d e rest unit isUnit high f g h i next more tail second isSecond low ih =>
      have after := within.codeUnit isUnit
      rw [tail] at after
      exact ih (after.codeUnit isSecond)
  | case6 seen position a b c d e rest unit isUnit high f g h i next more tail second isSecond low ih =>
      exact ih (within.codeUnit isUnit)
  | case7 seen position a b c d e rest unit isUnit high other ih => exact ih (within.codeUnit isUnit)
  | case8 seen position a b c d e rest unit isUnit high ih => exact ih (within.codeUnit isUnit)
  | case9 => exact .error (.inl ⟨_, _, rfl⟩)
  | case10 => exact .error (.inl ⟨_, _, rfl⟩)
  | case11 seen position c rest noUnit noU real isReal ih => exact ih within.escaped
  | case12 => exact .error (.inl ⟨_, _, rfl⟩)
  | case13 => exact .error (.inl ⟨_, _, rfl⟩)
  | case14 seen position c rest noQuote noUnit noU noEscape noEnd printable ih =>
      have isLetter : c ≠ '\\' := by
        rintro rfl
        cases rest with
        | nil => exact noEnd rfl rfl
        | cons other later => exact noEscape other later rfl rfl
      exact ih (within.letter noQuote isLetter)

/-- The second text is what is left of the first behind neutral characters. -/
def Passes (chars rest : List Char) : Prop := ∃ taken, taken ++ rest = chars ∧ ∀ c ∈ taken, isNeutral c = true

namespace Passes

variable {chars middle rest : List Char}

theorem refl (chars : List Char) : Passes chars chars := ⟨[], rfl, fun _ nothing => by cases nothing⟩

theorem cons {c : Char} (neutral : isNeutral c = true) (passes : Passes chars rest) : Passes (c :: chars) rest := by
  obtain ⟨taken, rfl, areNeutral⟩ := passes
  exact ⟨c :: taken, rfl, List.forall_mem_cons.2 ⟨neutral, areNeutral⟩⟩

theorem trans (first : Passes chars middle) (second : Passes middle rest) : Passes chars rest := by
  obtain ⟨taken, rfl, areNeutral⟩ := first
  obtain ⟨more, rfl, alsoNeutral⟩ := second
  exact ⟨taken ++ more, List.append_assoc .., List.forall_mem_append.2 ⟨areNeutral, alsoNeutral⟩⟩

theorem suffix (passes : Passes chars rest) : rest <:+ chars := by
  obtain ⟨taken, same, -⟩ := passes
  exact ⟨taken, same⟩

theorem keepsTo {limit level : Nat} (passes : Passes chars rest) (within : KeepsTo limit false level chars) :
    KeepsTo limit false level rest := by
  obtain ⟨taken, rfl, areNeutral⟩ := passes
  exact within.neutrals areNeutral

end Passes

theorem isNeutral_of_isAsciiDigit {c : Char} (digit : Text.isAsciiDigit c = true) : isNeutral c = true := by
  simp only [Text.isAsciiDigit, Bool.and_eq_true, decide_eq_true_eq] at digit
  simp only [isNeutral, List.contains_cons, List.contains_nil, Bool.or_false, Bool.not_eq_true',
    Bool.or_eq_false_iff, beq_eq_false_iff_ne]
  refine ⟨?_, ?_, ?_, ?_, ?_⟩ <;> rintro rfl <;> revert digit <;> decide

theorem digitsOf_spec {chars digits rest : List Char} (found : digitsOf chars = (digits, rest)) :
    digits ++ rest = chars ∧ ∀ c ∈ digits, Text.isAsciiDigit c = true := by
  rw [digitsOf, List.span_eq_takeWhile_dropWhile] at found
  cases found
  exact ⟨List.takeWhile_append_dropWhile, fun c inside => List.mem_takeWhile_imp inside⟩

theorem passes_digitsOf {chars digits rest : List Char} (found : digitsOf chars = (digits, rest)) :
    Passes chars rest := by
  obtain ⟨whole, areDigits⟩ := digitsOf_spec found
  exact ⟨digits, whole, fun c inside => isNeutral_of_isAsciiDigit (areDigits c inside)⟩

theorem passes_powerOf {chars rest : List Char} {power : Option (Bool × List Char)} {width : Nat}
    (found : powerOf chars = (power, width, rest)) : Passes chars rest := by
  unfold powerOf at found
  split at found
  · next e after =>
      split at found
      · next isPower =>
          have neutral : isNeutral e = true := by
            simp only [Bool.or_eq_true, beq_iff_eq] at isPower
            rcases isPower with rfl | rfl <;> decide
          split at found
          next negative signed body sign =>
          have signed : Passes after body := by
            split at sign <;> cases sign
            · exact .cons (by decide) (.refl _)
            · exact .cons (by decide) (.refl _)
            · exact .refl _
          split at found
          · cases found
            exact .refl _
          · next digits later _ isDigits =>
              cases found
              exact .cons neutral (signed.trans (passes_digitsOf isDigits))
      · cases found
        exact .refl _
  · cases found
    exact .refl _

theorem passes_numeral {chars rest : List Char} {n : Numeral} (found : numeral? chars = some (n, rest)) :
    Passes chars rest ∧ n.whole <:+: chars ∧ ∀ c ∈ n.whole, Text.isAsciiDigit c = true := by
  unfold numeral? at found
  split at found
  next negative body sign =>
  -- A number is a sign, whole digits, a fraction and a power, each passed over before the next.
  have signed : Passes chars body := by
    split at sign <;> cases sign
    · exact .cons (by decide) (.refl _)
    · exact .refl _
  split at found
  next whole afterWhole isWhole =>
  have wholeIs : whole ++ afterWhole = body ∧ ∀ c ∈ whole, Text.isAsciiDigit c = true := by
    split at isWhole
    · cases isWhole
      exact ⟨rfl, by decide⟩
    · exact digitsOf_spec isWhole
  split at found
  · cases found
  split at found
  next fraction point afterPoint isFraction =>
  have fractional : Passes afterWhole afterPoint := by
    split at isFraction
    · split at isFraction
      · cases isFraction
        exact .refl _
      · next digits after _ isDigits =>
          cases isFraction
          exact .cons (by decide) (passes_digitsOf isDigits)
    · cases isFraction
      exact .refl _
  split at found
  next power width afterPower isPower =>
  cases found
  have passed : Passes body afterWhole :=
    ⟨whole, wholeIs.1, fun c inside => isNeutral_of_isAsciiDigit (wholeIs.2 c inside)⟩
  have infixed : whole <:+: body := ⟨[], afterWhole, wholeIs.1⟩
  exact ⟨((signed.trans passed).trans fractional).trans (passes_powerOf isPower),
    infixed.trans signed.suffix.isInfix, wholeIs.2⟩

theorem passes_word {chars rest : List Char} {v : Value} {count : Nat} (found : word? chars = some (v, count, rest)) :
    Passes chars rest := by
  unfold word? at found
  split at found <;> cases found
  · exact ⟨"null".toList, rfl, by decide⟩
  · exact ⟨"true".toList, rfl, by decide⟩
  · exact ⟨"false".toList, rfl, by decide⟩
  · exact ⟨"NaN".toList, rfl, by decide⟩
  · exact ⟨"Infinity".toList, rfl, by decide⟩
  · exact ⟨"-Infinity".toList, rfl, by decide⟩

theorem ends_plain {limit level position : Nat} {chars : List Char} (within : KeepsTo limit false level chars) :
    Ends (plain position chars) (fun r => KeepsTo limit false level r.rest) (Explained limit) := by
  unfold plain
  split
  · next v count rest found => exact .ok ((passes_word found).keepsTo within)
  · split
    · exact .error (.inl ⟨_, _, rfl⟩)
    · next n rest found =>
        obtain ⟨passes, infixed, areDigits⟩ := passes_numeral found
        have short := within.runs n.whole infixed areDigits
        unfold Numeral.value
        split
        · split
          · next long => exact .error (.inr ⟨_, rfl, long, short⟩)
          · exact .ok (passes.keepsTo within)
        · exact .ok (passes.keepsTo within)

theorem KeepsTo.of_skip {limit level position next : Nat} {chars rest : List Char} (within : KeepsTo limit false level chars)
    (skipped : Json.skip position chars = (next, rest)) : KeepsTo limit false level rest := by
  have after := within.skip position
  rw [skipped] at after
  exact after

/-- What is read stays within the limits: a value at its level, and the parts of a collection one level further in. -/
structure StaysWithin (limit fuel : Nat) : Prop where
  ofValue : ∀ {level position chars}, KeepsTo limit false level chars →
    Ends (value fuel level position chars) (fun r => KeepsTo limit false level r.rest) (Explained limit)
  ofMembers : ∀ {level position chars}, KeepsTo limit false (level + 1) chars →
    Ends (members fuel (level + 1) position chars) (fun r => KeepsTo limit false level r.rest) (Explained limit)
  ofElements : ∀ {level position chars}, KeepsTo limit false (level + 1) chars →
    Ends (elements fuel (level + 1) position chars) (fun r => KeepsTo limit false level r.rest) (Explained limit)

variable {limit fuel level position : Nat} {chars : List Char}

theorem StaysWithin.value_succ (stays : StaysWithin limit fuel) (within : KeepsTo limit false level chars) :
    Ends (value (fuel + 1) level position chars) (fun r => KeepsTo limit false level r.rest) (Explained limit) := by
  unfold value
  split
  · exact (ends_string within.intoString).bind fun r after => .ok after
  · obtain ⟨shallow, inside⟩ := within.opened (.inr rfl)
    rw [if_neg (Nat.not_le.2 shallow)]
    split
    · next next rest skipped => exact .ok ((inside.of_skip skipped).closed (.inr rfl))
    · next next rest _ skipped => exact (stays.ofMembers (inside.of_skip skipped)).bind fun r after => .ok after
  · obtain ⟨shallow, inside⟩ := within.opened (.inl rfl)
    rw [if_neg (Nat.not_le.2 shallow)]
    split
    · next next rest skipped => exact .ok ((inside.of_skip skipped).closed (.inl rfl))
    · next next rest _ skipped => exact (stays.ofElements (inside.of_skip skipped)).bind fun r after => .ok after
  · exact ends_plain within

theorem StaysWithin.members_succ (stays : StaysWithin limit fuel) (within : KeepsTo limit false (level + 1) chars) :
    Ends (members (fuel + 1) (level + 1) position chars) (fun r => KeepsTo limit false level r.rest) (Explained limit) := by
  unfold members
  split
  · apply (ends_string within.intoString).bind
    intro name named
    split
    · next next rest skipped =>
        have colon := (named.of_skip skipped).neutral (by decide)
        split
        next later body isBody =>
        apply (stays.ofValue (colon.of_skip isBody)).bind
        intro v valued
        split
        · next last rest skipped => exact .ok ((valued.of_skip skipped).closed (.inr rfl))
        · next last rest skipped =>
            have comma := (valued.of_skip skipped).neutral (by decide)
            split
            next more body isBody =>
            exact (stays.ofMembers (comma.of_skip isBody)).bind fun r after => .ok after
        · exact .error (.inl ⟨_, _, rfl⟩)
    · exact .error (.inl ⟨_, _, rfl⟩)
  · exact .error (.inl ⟨_, _, rfl⟩)

theorem StaysWithin.elements_succ (stays : StaysWithin limit fuel) (within : KeepsTo limit false (level + 1) chars) :
    Ends (elements (fuel + 1) (level + 1) position chars) (fun r => KeepsTo limit false level r.rest) (Explained limit) := by
  unfold elements
  apply (stays.ofValue within).bind
  intro v valued
  split
  · next last rest skipped => exact .ok ((valued.of_skip skipped).closed (.inl rfl))
  · next last rest skipped =>
      have comma := (valued.of_skip skipped).neutral (by decide)
      split
      next more body isBody =>
      exact (stays.ofElements (comma.of_skip isBody)).bind fun r after => .ok after
  · exact .error (.inl ⟨_, _, rfl⟩)

theorem staysWithin (limit fuel : Nat) : StaysWithin limit fuel := by
  induction fuel with
  | zero =>
      constructor
      · intro level position chars within
        rw [value]
        exact .error (.inl ⟨_, _, rfl⟩)
      · intro level position chars within
        rw [members]
        exact .error (.inl ⟨_, _, rfl⟩)
      · intro level position chars within
        rw [elements]
        exact .error (.inl ⟨_, _, rfl⟩)
  | succ fuel ih => exact ⟨ih.value_succ, ih.members_succ, ih.elements_succ⟩

theorem ends_read_of_keepsTo (within : KeepsTo limit false 0 chars) :
    Ends (read chars) (fun _ => True) (Explained limit) := by
  unfold read
  split
  · exact .error (.inl ⟨_, _, rfl⟩)
  · split
    next start body isBody =>
    apply ((staysWithin limit _).ofValue (within.of_skip isBody)).bind
    intro r _
    split
    · exact .ok trivial
    · exact .error (.inl ⟨_, _, rfl⟩)

/-- Whether no run of digits is too long, and brackets do not nest too deep, inside of a string or not. -/
structure IsWithin (quoted : Bool) (level : Nat) (chars : List Char) : Prop where
  runs : ∀ digits, digits <:+: chars → (∀ c ∈ digits, Text.isAsciiDigit c = true) →
    digits.length ≤ Text.Integer.maxDecimalDigits
  nests : nestsWithin quoted level chars = true

theorem IsWithin.of_length {quoted : Bool} (short : chars.length ≤ Text.Integer.maxDecimalDigits)
    (nests : nestsWithin quoted level chars = true) : IsWithin quoted level chars :=
  have keeps := KeepsTo.of_length short nests
  ⟨keeps.runs, keeps.nests⟩

/-- A text within the limits is read, or it is malformed. -/
theorem ends_read (within : IsWithin false 0 chars) : Ends (read chars) (fun _ => True) IsMalformed := by
  have ends := ends_read_of_keepsTo ⟨within.runs, within.nests⟩
  refine ⟨fun _ _ => trivial, fun fault failed => ?_⟩
  rcases ends.failed fault failed with malformed | ⟨digits, -, long, short⟩
  · exact malformed
  · exact absurd short (Nat.not_le.2 long)

/-- A text whose brackets nest well is not nested too deep for its reader, and what is wrong with it can be told. -/
theorem message_of_nests {fault : Fault} (nests : nestsWithin false 0 chars = true)
    (failed : read chars = .error fault) : ∃ reason, fault.message? chars = some reason := by
  have ends := ends_read_of_keepsTo (KeepsTo.of_length (Nat.le_refl chars.length) nests)
  rcases ends.failed fault failed with ⟨problem, position, rfl⟩ | ⟨digits, rfl, -, -⟩
  · exact ⟨_, rfl⟩
  · exact ⟨_, rfl⟩

end QueryHooks.Json
