import Mathlib.Algebra.Ring.Nat
import Mathlib.Data.List.Infix
import Mathlib.Data.List.TakeDrop
import Mathlib.Data.List.TakeWhile
import QueryHooks.Proofs.Failure
import QueryHooks.Yaml.Token.Stream

/-!
The limits of reading the tokens of a YAML text: how long a version may be, and which code points have a character.
Every reader stops further on in the text, so that a text within the limits stays within them to its end.
-/

namespace QueryHooks.Yaml

def IsMalformed (failure : Failure) : Prop := ∃ problem, failure = .malformed problem

theorem ends_malformed {α : Type} {good : α → Prop} (problem : Problem) :
    Ends (malformed problem : Except Failure α) good IsMalformed :=
  .error ⟨problem, rfl⟩

namespace Cursor

variable {c next last : Cursor}

/-- Whether a place is further on in a text, or the same place. -/
def Follows (next c : Cursor) : Prop := next.rest <:+ c.rest

theorem Follows.refl (c : Cursor) : c.Follows c := List.suffix_rfl

theorem Follows.trans (later : last.Follows next) (earlier : next.Follows c) : last.Follows c :=
  List.IsSuffix.trans later earlier

theorem rest_advance (c : Cursor) : c.advance.rest = c.rest.tail := by
  unfold advance
  split
  · next ahead => rw [ahead, List.tail_nil]
  · next first rest ahead =>
      have tail : c.rest.tail = rest := by rw [ahead, List.tail_cons]
      rw [tail]
      dsimp only
      split_ifs <;> rfl

theorem rest_advanceBy (c : Cursor) (n : Nat) : (c.advanceBy n).rest = c.rest.drop n := by
  induction n generalizing c with
  | zero => rfl
  | succ n ih => rw [advanceBy, ih, rest_advance, List.drop_tail]

/-- The end mark is ahead only where nothing is left. -/
theorem rest_of_peek {first : Char} (ahead : c.peek = first) (noEnd : first ≠ endMark) :
    c.rest = first :: c.advance.rest := by
  unfold peek at ahead
  cases here : c.rest with
  | nil =>
      rw [here] at ahead
      exact absurd ahead.symm noEnd
  | cons other rest =>
      rw [here, List.headD_cons] at ahead
      rw [rest_advance, here, ahead, List.tail_cons]

theorem follows_advance (c : Cursor) : c.advance.Follows c := by
  rw [Follows, rest_advance]
  exact List.tail_suffix _

theorem follows_advanceBy (c : Cursor) (n : Nat) : (c.advanceBy n).Follows c := by
  rw [Follows, rest_advanceBy]
  exact List.drop_suffix _ _

theorem rest_span (c : Cursor) (isIn : Char → Bool) : (c.span isIn).1 ++ (c.span isIn).2.rest = c.rest := by
  rw [span, rest_advanceBy]
  exact List.prefix_iff_eq_append.1 (List.takeWhile_prefix isIn)

theorem follows_span (c : Cursor) (isIn : Char → Bool) : (c.span isIn).2.Follows c :=
  follows_advanceBy c _

theorem follows_skipComment (c : Cursor) : c.skipComment.Follows c := by
  unfold skipComment
  split
  · exact follows_span c _
  · exact .refl c

theorem follows_lineBreak (c : Cursor) : c.lineBreak.2.Follows c := by
  unfold lineBreak
  split
  · exact follows_advanceBy c 2
  · split_ifs
    · exact follows_advance c
    · exact follows_advance c
    · exact .refl c
  · exact .refl c

theorem follows_of_lineBreak {b : Option Char} (found : c.lineBreak = (b, next)) : next.Follows c := by
  have follows := follows_lineBreak c
  rw [found] at follows
  exact follows

/-- A comment and a line break after it. -/
theorem follows_endOfLine (c : Cursor) : c.skipSpaces.skipComment.lineBreak.2.Follows c :=
  ((follows_lineBreak _).trans (follows_skipComment _)).trans (follows_span c _)

end Cursor

open Cursor

variable {c next : Cursor}

/-! Block scalars and plain ones: only the head of a block scalar can be malformed. -/

theorem Block.ends_header (c : Cursor) : Ends (Block.header c) (·.2.Follows c) IsMalformed := by
  unfold Block.header
  split
  next chomping indent next read =>
  have follows : next.Follows c := by
    split at read
    · split at read <;> cases read
      · exact follows_advanceBy c 2
      · exact follows_advance c
    · split at read
      · split at read <;> cases read
        · exact follows_advanceBy c 2
        · exact follows_advance c
      · cases read
        exact .refl c
  split
  · exact ends_malformed _
  · dsimp only
    split
    · exact .ok ((follows_endOfLine next).trans follows)
    · exact ends_malformed _

theorem Block.follows_leading (fuel widest : Nat) (c : Cursor) : (Block.leading fuel widest c).2.2.Follows c := by
  induction fuel generalizing widest c with
  | zero => exact .refl c
  | succ fuel ih =>
      unfold Block.leading
      split
      · exact (ih _ _).trans (follows_advance c)
      · split
        · exact .refl c
        · next b next found => exact (ih widest next).trans (follows_of_lineBreak found)

theorem Block.follows_skipIndent (indent fuel : Nat) (c : Cursor) : (Block.skipIndent indent fuel c).Follows c := by
  induction fuel generalizing c with
  | zero => exact .refl c
  | succ fuel ih =>
      unfold Block.skipIndent
      split
      · exact (ih _).trans (follows_advance c)
      · exact .refl c

theorem Block.follows_breaks (indent fuel : Nat) (c : Cursor) : (Block.breaks indent fuel c).2.Follows c := by
  induction fuel generalizing c with
  | zero => exact .refl c
  | succ fuel ih =>
      have indented := Block.follows_skipIndent indent indent c
      unfold Block.breaks
      dsimp only
      split
      · exact indented
      · next b next found => exact ((ih next).trans (follows_of_lineBreak found)).trans indented

theorem Block.follows_textLines (folded : Bool) (header : Block.Header) (indent : Nat) (before : List Char)
    (fuel : Nat) (c : Cursor) : (Block.textLines folded header indent before fuel c).2.Follows c := by
  induction fuel generalizing before c with
  | zero => exact .refl c
  | succ fuel ih =>
      have line := (follows_lineBreak _).trans (follows_span c (!isBreakOrEnd ·))
      have empty (fuel : Nat) := (Block.follows_breaks indent fuel _).trans line
      unfold Block.textLines
      dsimp only
      split
      · exact (ih _ _).trans (empty _)
      · exact empty _

theorem Block.ends_read (folded : Bool) (parent : Int) (c : Cursor) :
    Ends (Block.read folded parent c) (·.2.Follows c) IsMalformed := by
  unfold Block.read
  apply (Block.ends_header c.advance).bind
  rintro ⟨header, start⟩ follows
  have stops (before : List Char) (indent : Nat) {next : Cursor} (follows : next.Follows c) :
      Ends (if next.column == indent && !next.rest.isEmpty then do
          let lines := Block.textLines folded header indent before (next.left + 1) next
          return (String.ofList lines.1, lines.2)
        else return (String.ofList (Block.tail header.chomping none before), next) :
          Except Failure (String × Cursor)) (·.2.Follows c) IsMalformed := by
    have lines := (Block.follows_textLines folded header indent before (next.left + 1) next).trans follows
    split
    · exact .ok lines
    · exact .ok follows
  have starts := follows.trans (follows_advance c)
  dsimp only
  split
  · exact stops _ _ ((Block.follows_leading ..).trans starts)
  · exact stops _ _ ((Block.follows_breaks ..).trans starts)

theorem Plain.follows_breaks (fuel : Nat) (c : Cursor) : (Plain.breaks fuel c).2.Follows c := by
  induction fuel generalizing c with
  | zero => exact .refl c
  | succ fuel ih =>
      unfold Plain.breaks
      split
      · exact (ih _).trans (follows_advance c)
      · split
        · exact .refl c
        · next b next found =>
            split
            · exact follows_of_lineBreak found
            · exact (ih next).trans (follows_of_lineBreak found)

theorem Plain.follows_gap (c : Cursor) : (Plain.gap c).2.Follows c := by
  have spaces := follows_span c (· == ' ')
  unfold Plain.gap
  dsimp only
  split
  · exact spaces
  · next first after found =>
      have line := (follows_of_lineBreak found).trans spaces
      have empty := (Plain.follows_breaks after.left after).trans line
      split
      · exact line
      · split
        · next last same =>
            rw [same] at empty
            exact empty
        · next more last same =>
            rw [same] at empty
            exact empty

theorem Plain.follows_words (inFlow : Bool) (indent : Int) (before : List Char) (newLine : Bool) (fuel : Nat)
    (c : Cursor) : (Plain.words inFlow indent before newLine fuel c).2.2.Follows c := by
  induction fuel generalizing before newLine c with
  | zero => exact .refl c
  | succ fuel ih =>
      unfold Plain.words
      dsimp only
      generalize (if c.peek == '#' then [] else Plain.word inFlow c.rest) = chars
      have gap := (Plain.follows_gap (c.advanceBy chars.length)).trans (follows_advanceBy c _)
      split
      · exact .refl c
      · split
        · exact gap
        · exact (ih _ _ _).trans gap

/-! Versions and escapes, which can be beyond the limits. -/

/-- Whether a character may stand in what a directive says of the version. -/
def isVersionChar (c : Char) : Bool := c == ' ' || c == '.' || Text.isAsciiDigit c

/-- Whether no version at the start of a text has too many digits. -/
def HasShortVersion (chars : List Char) : Prop :=
  ∀ said, said <+: chars → (∀ c ∈ said, isVersionChar c = true) → said.length ≤ Text.Integer.maxDecimalDigits

theorem HasShortVersion.of_append {said rest : List Char} (short : HasShortVersion (said ++ rest))
    (isVersion : ∀ c ∈ said, isVersionChar c = true) : HasShortVersion rest := by
  intro more inside alsoVersion
  have both := short (said ++ more) (List.prefix_append_right_inj said |>.2 inside)
    (List.forall_mem_append.2 ⟨isVersion, alsoVersion⟩)
  rw [List.length_append] at both
  exact (Nat.le_add_left ..).trans both

/-- Whether versions are short, and escapes of eight digits stand for characters, wherever they are in a text. -/
structure IsWithin (chars : List Char) : Prop where
  versions : ∀ rest, "%YAML".toList ++ rest <:+ chars → HasShortVersion rest
  escapes : ∀ rest code, '\\' :: 'U' :: rest <:+ chars → Quoted.codeOf? (rest.take 8) = some code → code ≤ 0x10FFFF

theorem IsWithin.suffix {chars rest : List Char} (within : IsWithin chars) (isSuffix : rest <:+ chars) :
    IsWithin rest where
  versions later inside := within.versions later (inside.trans isSuffix)
  escapes later code inside := within.escapes later code (inside.trans isSuffix)

theorem IsWithin.of_not_mem {chars : List Char} (noDirective : '%' ∉ chars) (noEscape : '\\' ∉ chars) :
    IsWithin chars where
  versions _ inside := absurd (inside.subset (List.mem_append_left _ (by decide))) noDirective
  escapes _ _ inside := absurd (inside.subset List.mem_cons_self) noEscape

theorem hexValue_lt {digit : Char} {n : Nat} (isHex : Text.hexValue? digit = some n) : n < 16 := by
  unfold Text.hexValue? Text.isAsciiDigit at isHex
  simp only [Bool.and_eq_true, decide_eq_true_eq, Char.le_def, UInt32.le_iff_toNat_le] at isHex
  split_ifs at isHex with decimal lower upper <;> cases isHex
  · have last : digit.toNat ≤ 57 := decimal.2
    omega
  · have last : digit.toNat ≤ 102 := lower.2
    omega
  · have last : digit.toNat ≤ 70 := upper.2
    omega

theorem Quoted.codeOf_lt {digits : List Char} {code : Nat} (found : Quoted.codeOf? digits = some code) :
    code < 16 ^ digits.length := by
  have general (start : Nat) (found : digits.foldlM
      (fun code c => (Text.hexValue? c).map (code * 16 + ·)) start = some code) :
      code < (start + 1) * 16 ^ digits.length := by
    clear * - found
    induction digits generalizing start with
    | nil =>
        cases found
        simp
    | cons digit rest ih =>
        rw [List.foldlM_cons] at found
        obtain ⟨next, isNext, found⟩ := Option.bind_eq_some_iff.1 found
        obtain ⟨n, isHex, rfl⟩ := Option.map_eq_some_iff.1 isNext
        have small := hexValue_lt isHex
        calc code < (start * 16 + n + 1) * 16 ^ rest.length := ih _ found
          _ ≤ (start + 1) * 16 * 16 ^ rest.length := Nat.mul_le_mul_right _ (by omega)
          _ = (start + 1) * 16 ^ (rest.length + 1) := by rw [Nat.pow_succ, Nat.mul_assoc, Nat.mul_comm 16]
  simpa using general 0 found

theorem Quoted.ends_escapedCode {length : Nat}
    (fits : ∀ code, Quoted.codeOf? (c.rest.take length) = some code → code ≤ 0x10FFFF) :
    Ends (Quoted.escapedCode length c) (·.2.Follows c) IsMalformed := by
  unfold Quoted.escapedCode
  split
  · exact ends_malformed _
  · next code next found =>
      unfold Quoted.number? at found
      dsimp only at found
      split at found
      · obtain ⟨_, isCode, same⟩ := Option.map_eq_some_iff.1 found
        cases same
        have char : Quoted.charOf? code = some (Text.Half.ofUnit code) := by
          rw [Quoted.charOf?, if_neg (Nat.not_lt.2 (fits code isCode))]
        rw [char]
        exact .ok (follows_advanceBy c length)
      · cases found

theorem Quoted.ends_breaks (fuel : Nat) (c : Cursor) :
    Ends (Quoted.breaks fuel c) (·.2.Follows c) IsMalformed := by
  induction fuel generalizing c with
  | zero => exact .ok (.refl c)
  | succ fuel ih =>
      have spaces := follows_span c fun c => c == ' ' || c == '\t'
      unfold Quoted.breaks
      split
      · exact ends_malformed _
      · dsimp only
        split
        · exact .ok spaces
        · next b after found =>
            apply (ih after).bind
            rintro ⟨more, last⟩ follows
            exact .ok ((follows.trans (follows_of_lineBreak found)).trans spaces)

theorem Quoted.ends_gap (c : Cursor) : Ends (Quoted.gap c) (·.2.Follows c) IsMalformed := by
  have spaces := follows_span c fun c => c == ' ' || c == '\t'
  unfold Quoted.gap
  dsimp only
  split
  · split
    · exact ends_malformed _
    · exact .ok spaces
  · next first after found =>
      apply (Quoted.ends_breaks _ after).bind
      rintro ⟨more, last⟩ follows
      exact .ok ((follows.trans (follows_of_lineBreak found)).trans spaces)

theorem Quoted.ends_escape (within : IsWithin ('\\' :: c.rest)) :
    Ends (Quoted.escape c) (·.2.Follows c) IsMalformed := by
  unfold Quoted.escape
  split
  · exact .ok (follows_advance c)
  · next length _ isLength =>
      have fits (code : Nat) (isCode : Quoted.codeOf? (c.advance.rest.take length) = some code) :
          code ≤ 0x10FFFF := by
        have small := Quoted.codeOf_lt isCode
        have few : (c.advance.rest.take length).length ≤ length := List.length_take_le ..
        have bound : code < 16 ^ length := small.trans_le (Nat.pow_le_pow_right (by decide) few)
        unfold Quoted.codeLength? at isLength
        split at isLength <;> cases isLength
        · omega
        · omega
        · next isLong =>
            rw [rest_of_peek isLong (by decide)] at within
            exact within.escapes c.advance.rest code List.suffix_rfl isCode
      apply (Quoted.ends_escapedCode fits).bind
      rintro ⟨char, next⟩ follows
      exact .ok (follows.trans (follows_advance c))
  · split
    · next b after found =>
        exact (Quoted.ends_breaks _ after).mono fun _ follows => follows.trans (follows_of_lineBreak found)
    · exact ends_malformed _

theorem Quoted.ends_body {double : Bool} {fuel : Nat} (within : IsWithin c.rest) :
    Ends (Quoted.body double fuel c) (·.2.Follows c) IsMalformed := by
  induction fuel generalizing c with
  | zero => exact ends_malformed _
  | succ fuel ih =>
      -- Whatever was read here, the rest is read from a cursor further on, to which the induction applies.
      have goesOn (chars : List Char) {next : Cursor} (follows : next.Follows c) :
          Ends (do let read ← Quoted.body double fuel next; return (chars ++ read.1, read.2))
            (·.2.Follows c) IsMalformed := by
        apply (ih (within.suffix follows)).bind
        rintro ⟨more, last⟩ later
        exact .ok (later.trans follows)
      unfold Quoted.body
      split
      · exact ends_malformed _
      · next first rest here =>
          dsimp only
          split
          · split
            · exact goesOn _ (follows_advanceBy c 2)
            · exact .ok (follows_advance c)
          · split
            · exact .ok (follows_advance c)
            · split
              · next isEscape =>
                  have backslash : first = '\\' := by simpa using (Bool.and_eq_true_iff.1 isEscape).2
                  have behind : c.advance.rest = rest := by rw [rest_advance, here, List.tail_cons]
                  rw [here, backslash, ← behind] at within
                  apply (Quoted.ends_escape within).bind
                  rintro ⟨chars, next⟩ follows
                  exact goesOn chars (follows.trans (follows_advance c))
              · split
                · apply (Quoted.ends_gap c).bind
                  rintro ⟨chars, next⟩ follows
                  exact goesOn chars follows
                · exact goesOn _ (follows_advance c)

theorem Quoted.ends_read {double : Bool} (within : IsWithin c.rest) :
    Ends (Quoted.read double c) (·.2.Follows c) IsMalformed := by
  unfold Quoted.read
  apply (Quoted.ends_body (within.suffix (follows_advance c))).bind
  rintro ⟨chars, last⟩ follows
  exact .ok (follows.trans (follows_advance c))

/-! Anchors, tags and directives. -/

theorem ends_anchorName (c : Cursor) : Ends (anchorName c) (·.2.Follows c) IsMalformed := by
  unfold anchorName
  dsimp only
  split
  · exact ends_malformed _
  · exact .ok ((follows_span _ _).trans (follows_advance c))

theorem ends_uri (c : Cursor) : Ends (uri c) (·.2.Follows c) IsMalformed := by
  unfold uri
  split
  · exact ends_malformed _
  · dsimp only
    split
    · exact ends_malformed _
    · exact .ok (follows_advanceBy c _)

theorem ends_tagHandle (c : Cursor) : Ends (tagHandle c) (·.2.Follows c) IsMalformed := by
  have name := (follows_span c.advance isNameChar).trans (follows_advance c)
  unfold tagHandle
  split
  · exact ends_malformed _
  · dsimp only
    split
    · exact .ok (follows_advance c)
    · split
      · exact .ok ((follows_advance _).trans name)
      · exact ends_malformed _

theorem ends_writtenTag (c : Cursor) : Ends (writtenTag c) (·.2.Follows c) IsMalformed := by
  have stops (t : WrittenTag) {next : Cursor} (follows : next.Follows c) :
      Ends (if isGap next.peek then return (t, next) else malformed .badTag :
        Except Failure (WrittenTag × Cursor)) (·.2.Follows c) IsMalformed := by
    split
    · exact .ok follows
    · exact ends_malformed _
  unfold writtenTag
  dsimp only
  split_ifs
  · apply (ends_uri (c.advanceBy 2)).bind
    rintro ⟨suffix, next⟩ follows
    dsimp only
    split
    · exact stops _ (((follows_advance next).trans follows).trans (follows_advanceBy c 2))
    · exact ends_malformed .badTag
  · exact stops _ (follows_advance c)
  · apply (ends_tagHandle c).bind
    rintro ⟨handle, next⟩ follows
    apply (ends_uri next).bind
    rintro ⟨suffix, last⟩ later
    exact stops _ (later.trans follows)
  · apply (ends_uri c.advance).bind
    rintro ⟨suffix, last⟩ later
    exact stops _ (later.trans (follows_advance c))

theorem ends_versionNumber (short : HasShortVersion c.rest) :
    Ends (versionNumber c) (fun found => found.2.Follows c ∧ HasShortVersion found.2.rest) IsMalformed := by
  have whole := rest_span c Text.isAsciiDigit
  have digits : ∀ ch ∈ (c.span Text.isAsciiDigit).1, isVersionChar ch = true := by
    intro ch inside
    have digit : Text.isAsciiDigit ch = true := List.mem_takeWhile_imp inside
    rw [isVersionChar, digit, Bool.or_true]
  have few := short _ ⟨_, whole⟩ digits
  rw [← whole] at short
  unfold versionNumber
  dsimp only
  split
  · exact ends_malformed _
  · rw [if_neg (Nat.not_lt.2 few)]
    exact .ok ⟨follows_span c _, short.of_append digits⟩

theorem HasShortVersion.skipSpaces (short : HasShortVersion c.rest) : HasShortVersion c.skipSpaces.rest := by
  rw [← rest_span c (· == ' ')] at short
  apply short.of_append
  intro ch inside
  have space : ch = ' ' := by simpa using List.mem_takeWhile_imp inside
  rw [space]
  rfl

theorem ends_directiveBody {name : String} (short : name = "YAML" → HasShortVersion c.rest) :
    Ends (directiveBody name c) (·.2.Follows c) IsMalformed := by
  have spaces := follows_span c (· == ' ')
  unfold directiveBody
  split
  · next isVersion =>
      apply (ends_versionNumber (short (by simpa using isVersion)).skipSpaces).bind
      rintro ⟨major, point⟩ ⟨follows, short⟩
      dsimp only
      split
      · exact ends_malformed _
      · next noOther =>
          have isPoint : point.peek = '.' := by simpa using noOther
          have minor : HasShortVersion point.advance.rest := by
            have whole : HasShortVersion (['.'] ++ point.advance.rest) := by
              rwa [List.singleton_append, ← rest_of_peek isPoint (by decide)]
            exact whole.of_append (by decide)
          apply (ends_versionNumber minor).bind
          rintro ⟨_, last⟩ ⟨later, -⟩
          dsimp only
          split
          · exact .ok (((later.trans (follows_advance point)).trans follows).trans spaces)
          · exact ends_malformed _
  · split
    · apply (ends_tagHandle c.skipSpaces).bind
      rintro ⟨handle, next⟩ follows
      dsimp only
      split
      · exact ends_malformed _
      · apply (ends_uri next.skipSpaces).bind
        rintro ⟨start, last⟩ later
        dsimp only
        split
        · exact .ok (((later.trans (follows_span next _)).trans follows).trans spaces)
        · exact ends_malformed _
    · exact .ok (follows_span c _)

theorem ends_directive (within : IsWithin c.rest) (starts : c.peek = '%') :
    Ends (directive c) (·.2.Follows c) IsMalformed := by
  have name := (follows_span c.advance isNameChar).trans (follows_advance c)
  have short (isVersion : String.ofList (c.advance.span isNameChar).1 = "YAML") :
      HasShortVersion (c.advance.span isNameChar).2.rest := by
    have whole := rest_span c.advance isNameChar
    apply within.versions
    rw [rest_of_peek starts (by decide), ← whole, ← String.toList_ofList (l := (c.advance.span isNameChar).1), isVersion]
    exact List.suffix_rfl
  unfold directive
  dsimp only
  split
  · exact ends_malformed _
  · apply (ends_directiveBody short).bind
    rintro ⟨d, next⟩ follows
    dsimp only
    split
    · exact .ok (((follows_endOfLine next).trans follows).trans name)
    · exact ends_malformed _

/-! Steps of reading tokens. -/

namespace Stream

variable {s : Stream}

/-- Whether reading goes on in the same place. -/
def Stays (s : Stream) (computed : Except Failure Stream) : Prop :=
  Ends computed (·.cursor = s.cursor) IsMalformed

theorem stays_dropKey (s : Stream) : s.Stays s.dropKey := by
  unfold dropKey
  split
  · exact ends_malformed _
  · exact .ok rfl

theorem stays_dropStaleKeys (s : Stream) : s.Stays s.dropStaleKeys := by
  unfold dropStaleKeys
  split
  · exact ends_malformed _
  · exact .ok rfl

theorem stays_noteKey (s : Stream) : s.Stays s.noteKey := by
  unfold noteKey
  split
  · exact .ok rfl
  · exact Ends.bind (stays_dropKey s) fun dropped same => .ok same

theorem cursor_closeTo (column : Int) (indents : List Int) (s : Stream) :
    (closeTo column indents s).cursor = s.cursor := by
  induction indents generalizing s with
  | nil => rfl
  | cons outer more ih =>
      unfold closeTo
      split
      · exact ih _
      · rfl

theorem cursor_closeBlocks (column : Int) (s : Stream) : (s.closeBlocks column).cursor = s.cursor := by
  unfold closeBlocks
  split
  · exact cursor_closeTo column _ s
  · rfl

theorem stays_endBlocks (s : Stream) : s.Stays s.endBlocks := by
  apply Ends.bind (stays_dropKey _)
  intro dropped same
  exact .ok (same.trans (cursor_closeBlocks (-1) s))

theorem stays_startCollection (s : Stream) (start : Token) (problem : Problem) :
    s.Stays (s.startCollection start problem) := by
  unfold startCollection
  split_ifs
  · exact .ok rfl
  · exact ends_malformed _
  · exact .ok rfl
  · exact .ok rfl

/-- Whether reading goes on further in the text. -/
def GoesOn (s : Stream) (computed : Except Failure Stream) : Prop :=
  Ends computed (·.cursor.Follows s.cursor) IsMalformed

theorem follows_skipGaps (fuel : Nat) (s : Stream) : (s.skipGaps fuel).cursor.Follows s.cursor := by
  induction fuel generalizing s with
  | zero => exact .refl _
  | succ fuel ih =>
      have here := (follows_skipComment _).trans (follows_span s.cursor (· == ' '))
      unfold skipGaps
      dsimp only
      split
      · exact here
      · next b next found => exact ((ih _).trans (follows_of_lineBreak found)).trans here


theorem Stays.goesOn {computed : Except Failure Stream} (stays : s.Stays computed)
    {next : Stream → Except Failure Stream} (moves : ∀ t : Stream, t.cursor = s.cursor → t.GoesOn (next t)) :
    s.GoesOn (computed >>= next) := by
  apply Ends.bind stays
  intro t same
  have further := moves t same
  rwa [GoesOn, same] at further

theorem goesOn_readDirective (within : IsWithin s.cursor.rest) (starts : s.cursor.peek = '%') :
    s.GoesOn s.readDirective := by
  apply (stays_endBlocks s).goesOn
  intro t same
  rw [← same] at within starts
  exact Ends.bind (ends_directive within starts) fun found follows => .ok follows

theorem goesOn_readSeparator (s : Stream) (t : Token) : s.GoesOn (s.readSeparator t) :=
  (stays_endBlocks s).goesOn fun t _ => Ends.ok (follows_advanceBy t.cursor 3)

theorem goesOn_openFlow (s : Stream) (t : Token) : s.GoesOn (s.openFlow t) :=
  (stays_noteKey s).goesOn fun t _ => Ends.ok (follows_advance t.cursor)

theorem goesOn_closeFlow (s : Stream) (t : Token) : s.GoesOn (s.closeFlow t) :=
  (stays_dropKey s).goesOn fun t _ => Ends.ok (follows_advance t.cursor)

theorem goesOn_readFlowEntry (s : Stream) : s.GoesOn s.readFlowEntry :=
  (stays_dropKey s).goesOn fun t _ => Ends.ok (follows_advance t.cursor)

theorem goesOn_readBlockEntry (s : Stream) : s.GoesOn s.readBlockEntry :=
  (stays_startCollection s _ _).goesOn fun t _ =>
    (stays_dropKey t).goesOn fun u _ => Ends.ok (follows_advance u.cursor)

theorem goesOn_readKey (s : Stream) : s.GoesOn s.readKey :=
  (stays_startCollection s _ _).goesOn fun t _ =>
    (stays_dropKey t).goesOn fun u _ => Ends.ok (follows_advance u.cursor)

theorem goesOn_readValue (s : Stream) : s.GoesOn s.readValue := by
  unfold readValue
  split
  · dsimp only
    split <;> exact Ends.ok (follows_advance s.cursor)
  · apply (stays_startCollection s _ _).goesOn
    intro t _
    have dropped : t.Stays { t with keyAllowed := t.inBlock }.dropKey := stays_dropKey _
    exact dropped.goesOn fun u _ => Ends.ok (follows_advance u.cursor)

theorem goesOn_readKeyed {read : Cursor → Except Failure (Token × Cursor)}
    (reads : Ends (read s.cursor) (·.2.Follows s.cursor) IsMalformed) : s.GoesOn (s.readKeyed read) := by
  apply (stays_noteKey s).goesOn
  intro t same
  rw [← same] at reads
  exact Ends.bind reads fun found follows => .ok follows

theorem goesOn_readBlockScalar (s : Stream) (folded : Bool) : s.GoesOn (s.readBlockScalar folded) := by
  have dropped : s.Stays { s with keyAllowed := true }.dropKey := stays_dropKey _
  exact dropped.goesOn fun t _ => Ends.bind (Block.ends_read folded t.indent t.cursor) fun found follows => .ok follows

theorem goesOn_readPlain (s : Stream) : s.GoesOn s.readPlain :=
  (stays_noteKey s).goesOn fun t _ => Ends.ok (Plain.follows_words (!t.inBlock) (t.indent + 1) [] false _ t.cursor)

theorem ends_named (token : String → Token) (c : Cursor) : Ends (named token c) (·.2.Follows c) IsMalformed :=
  (ends_anchorName c).bind fun _ follows => .ok follows

theorem ends_tagged (c : Cursor) : Ends (tagged c) (·.2.Follows c) IsMalformed :=
  (ends_writtenTag c).bind fun _ follows => .ok follows

theorem ends_quoted {double : Bool} (within : IsWithin c.rest) :
    Ends (quoted double c) (·.2.Follows c) IsMalformed :=
  (Quoted.ends_read within).bind fun _ follows => .ok follows

theorem GoesOn.ite {p : Prop} [Decidable p] {yes no : Except Failure Stream} (ifYes : p → s.GoesOn yes)
    (ifNo : s.GoesOn no) : s.GoesOn (if p then yes else no) := by
  by_cases here : p
  · rw [if_pos here]
    exact ifYes here
  · rw [if_neg here]
    exact ifNo

theorem goesOn_readToken (within : IsWithin s.cursor.rest) : s.GoesOn s.readToken := by
  unfold readToken
  refine .ite (fun starts => goesOn_readDirective within (by simpa using (Bool.and_eq_true_iff.1 starts).2)) ?_
  refine .ite (fun _ => goesOn_readSeparator s _) ?_
  refine .ite (fun _ => goesOn_openFlow s _) (.ite (fun _ => goesOn_openFlow s _) ?_)
  refine .ite (fun _ => goesOn_closeFlow s _) (.ite (fun _ => goesOn_closeFlow s _) ?_)
  refine .ite (fun _ => goesOn_readFlowEntry s) (.ite (fun _ => goesOn_readBlockEntry s) ?_)
  refine .ite (fun _ => goesOn_readKey s) (.ite (fun _ => goesOn_readValue s) ?_)
  refine .ite (fun _ => goesOn_readKeyed (ends_named _ _)) (.ite (fun _ => goesOn_readKeyed (ends_named _ _)) ?_)
  refine .ite (fun _ => goesOn_readKeyed (ends_tagged _)) ?_
  refine .ite (fun _ => goesOn_readBlockScalar s _) (.ite (fun _ => goesOn_readBlockScalar s _) ?_)
  refine .ite (fun _ => goesOn_readKeyed (ends_quoted within)) (.ite (fun _ => goesOn_readKeyed (ends_quoted within)) ?_)
  exact .ite (fun _ => goesOn_readPlain s) (ends_malformed _)

/-- A step reads on within the limits, or the text is malformed. -/
theorem goesOn_step (within : IsWithin s.cursor.rest) : s.GoesOn s.step := by
  have gaps := follows_skipGaps (s.cursor.left + 1) s
  apply Ends.bind (stays_dropStaleKeys _)
  intro t same
  have here : (t.closeBlocks t.column).cursor = (s.skipGaps (s.cursor.left + 1)).cursor :=
    (cursor_closeBlocks _ t).trans same
  rw [← here] at gaps
  dsimp only
  split
  · apply Ends.bind (stays_endBlocks _)
    intro ended unmoved
    rw [← unmoved] at gaps
    exact .ok gaps
  · exact (goesOn_readToken (within.suffix gaps)).mono fun next follows => follows.trans gaps

theorem isMalformed_of_run {fuel : Nat} (within : IsWithin s.cursor.rest) {failure : Failure}
    (failed : (s.run fuel).2 = some failure) : IsMalformed failure := by
  induction fuel generalizing s with
  | zero => cases failed
  | succ fuel ih =>
      have step := goesOn_step within
      unfold run at failed
      cases here : s.step with
      | error problem =>
          rw [here] at failed
          cases failed
          exact step.failed _ here
      | ok next =>
          rw [here] at failed
          dsimp only at failed
          split at failed
          · cases failed
          · exact ih (within.suffix (step.done next here)) failed

end Stream

/-- Reading the tokens of a text within the limits ends at its end, or the text is malformed. -/
theorem isMalformed_of_tokens {chars : List Char} (within : IsWithin chars) {failure : Failure}
    (failed : (tokens chars).2 = some failure) : IsMalformed failure := by
  unfold tokens at failed
  split at failed
  · cases failed
    exact ⟨_, rfl⟩
  · dsimp only at failed
    split at failed
    · refine Stream.isMalformed_of_run ?_ failed
      exact within.suffix (follows_advance (.ofText chars))
    · exact Stream.isMalformed_of_run within failed

end QueryHooks.Yaml
