import QueryHooks.Proofs.Naming.Characters
import QueryHooks.Proofs.PathTemplate
import QueryHooks.Proofs.TypeScript.LiteralText
import QueryHooks.Render.Hooks

/-!
Which paths and names the literals that are made of them denote. A path is written into its literal as it is, so it must
hold nothing that the literal reads in another way; a name that is no identifier is written with escapes.
-/

namespace QueryHooks.TypeScript

open QueryHooks.Api (Parameter isRequired)
open QueryHooks.PathTemplate (Piece fill fill_literal fill_hole fill_pieces isHoleName_of_hole)
open QueryHooks.Text (isWord isAscii isAsciiUpper isAsciiLower isAsciiDigit)

/-! ## Paths that mean themselves -/

/-- The characters that do not stand for themselves in a literal, apart from the start of what is put in. -/
def LiteralKind.isSpecial : LiteralKind → Char → Bool
  | .string, c => c == '\x27' || c == '\\' || c == '\n' || c == '\r'
  | .template, c => c == '\x60' || c == '\\' || c == '\r'

/--
Whether the pieces of a path mean themselves in a literal: the characters stand for themselves, no dollar sign comes
right before a brace, and each name is an identifier.
-/
def isClean (kind : LiteralKind) : List Piece → Bool
  | [] => true
  | .literal c :: rest =>
      !kind.isSpecial c && !(kind == .template && c == '$' && rest.head? == some (.literal '\x7b')) &&
        isClean kind rest
  | .hole name :: rest => isIdentifierName name.toList && isClean kind rest

/-- The code units of pieces, each name between its braces. -/
def pieceUnits (parts : List Piece) : List Nat :=
  textUnits (fill (fun name => '\x7b' :: name.toList ++ ['\x7d']) parts)

/-- What is written for a piece that means itself. -/
def writtenOf : Piece → List Written
  | .literal c => (charUnits c).map .code
  | .hole name => [.member name.toList]

variable {kind : LiteralKind} {accessor : Accessor} {params : List Parameter} {parts : List Piece}
  {found : List Written}

@[simp] theorem pieceUnits_literal (c : Char) (parts : List Piece) :
    pieceUnits (.literal c :: parts) = charUnits c ++ pieceUnits parts := rfl

@[simp] theorem pieceUnits_hole (name : String) (parts : List Piece) :
    pieceUnits (.hole name :: parts) = textUnits ('\x7b' :: (name.toList ++ ['\x7d'])) ++ pieceUnits parts := by
  rw [pieceUnits, fill_hole, textUnits_append]
  rfl

theorem pieceUnits_literals (chars : List Char) (parts : List Piece) :
    pieceUnits (chars.map .literal ++ parts) = textUnits chars ++ pieceUnits parts := by
  induction chars with
  | nil => rfl
  | cons c rest ih => rw [List.map_cons, List.cons_append, pieceUnits_literal, ih, textUnits_cons, List.append_assoc]

@[simp] theorem putBack_codes (units : List Nat) (found : List Written) :
    Written.putBack (units.map .code ++ found) = units ++ Written.putBack found := by
  induction units with
  | nil => rfl
  | cons unit rest ih =>
      rw [List.map_cons, List.cons_append]
      exact congrArg (unit :: ·) ih

@[simp] theorem putBack_member (name : List Char) (found : List Written) :
    Written.putBack (.member name :: found) =
      textUnits ('\x7b' :: (name ++ ['\x7d'])) ++ Written.putBack found := rfl

/-! ## What is put in -/

/-- The text of a template in the place of a name. -/
def inserted (params : List Parameter) (accessor : Accessor) (name : String) : List Char :=
  (interpolation params accessor name).toList

theorem exists_inserted (params : List Parameter) (accessor : Accessor) (name : String) :
    ∃ ending ∈ substitutionEnds, inserted params accessor name =
      '$' :: '\x7b' :: ((accessor.read "").toList ++ (name.toList ++ ending)) := by
  have reads : (accessor.read name).toList = (accessor.read "").toList ++ name.toList := by
    rw [Accessor.read, Accessor.read, String.toList_append, String.toList_append, String.toList_append]
    simp
  rw [inserted, interpolation]
  split
  · refine ⟨_, List.mem_cons_self, ?_⟩
    rw [String.toList_append, String.toList_append, reads]
    simp
  · refine ⟨_, List.mem_cons_of_mem _ List.mem_cons_self, ?_⟩
    rw [String.toList_append, String.toList_append, reads]
    simp

theorem inserted_opens (params : List Parameter) (accessor : Accessor) (name : String) :
    ∃ rest, inserted params accessor name = '$' :: '\x7b' :: rest := by
  obtain ⟨ending, -, whole⟩ := exists_inserted params accessor name
  exact ⟨_, whole⟩

/-- What stands before a blank or a closing brace is told by either. -/
theorem takeWhile_member {name rest ending : List Char} (listed : ending ∈ substitutionEnds)
    (within : ∀ c ∈ name, c ≠ ' ' ∧ c ≠ '\x7d') :
    (name ++ (ending ++ rest)).takeWhile (fun c => c != ' ' && c != '\x7d') = name := by
  have all : ∀ c ∈ name, (c != ' ' && c != '\x7d') = true := fun c inside => by
    rw [bne_iff_ne.2 (within c inside).1, bne_iff_ne.2 (within c inside).2]
    rfl
  rw [List.takeWhile_append_of_pos all]
  rcases List.mem_cons.1 listed with rfl | other
  · exact List.append_nil _
  · rw [List.mem_singleton.1 other]
    exact List.append_nil _

/-- A template reads the member that is put in exactly if its name is an identifier. -/
theorem substitution?_inserted {name : String} (word : ∀ c ∈ name.toList, isWord c = true) {rest ending : List Char}
    (listed : ending ∈ substitutionEnds) :
    substitution? accessor ((accessor.read "").toList ++ (name.toList ++ (ending ++ rest))) =
      if isIdentifierName name.toList then some (name.toList, rest) else none := by
  have apart {c : Char} (continues : isWord c = true ∨ isIdContinue c = true) : c ≠ ' ' ∧ c ≠ '\x7d' := by
    constructor <;> rintro rfl <;> revert continues <;> decide
  split
  · next isName => exact substitution?_iff.2 ⟨isName, ending, listed, rfl⟩
  · next noName =>
      cases found : substitution? accessor ((accessor.read "").toList ++ (name.toList ++ (ending ++ rest))) with
      | none => rfl
      | some result =>
          obtain ⟨member, after⟩ := result
          obtain ⟨isName, ending', listed', same⟩ := substitution?_iff.1 found
          have both := congrArg (List.takeWhile fun c => c != ' ' && c != '\x7d') (List.append_cancel_left same)
          have goesOn : ∀ c ∈ member, isIdContinue c = true := by
            rw [isIdentifierName_eq, Bool.and_eq_true] at isName
            exact List.all_eq_true.1 isName.2
          rw [takeWhile_member listed fun c inside => apart (.inl (word c inside)),
            takeWhile_member listed' fun c inside => apart (.inr (goesOn c inside))] at both
          exact absurd (both ▸ isName) noName

/-! ## Clean pieces are read as they are -/

/-- The text of a literal after its opening mark, from the pieces of a path. -/
def literalBody (kind : LiteralKind) (params : List Parameter) (accessor : Accessor) (parts : List Piece) : List Char :=
  fill (inserted params accessor) parts ++ [kind.mark]

/-- Names between braces are in templates only, and are words. -/
def HolesFit (kind : LiteralKind) (parts : List Piece) : Prop :=
  ∀ name, .hole name ∈ parts → kind = .template ∧ ∀ c ∈ name.toList, isWord c = true

theorem HolesFit.tail {piece : Piece} (fits : HolesFit kind (piece :: parts)) : HolesFit kind parts :=
  fun name inside => fits name (List.mem_cons_of_mem _ inside)

theorem HolesFit.append {chars : List Char} (fits : HolesFit kind (chars.map .literal ++ parts)) :
    HolesFit kind parts := fun name inside => fits name (List.mem_append_right _ inside)

/-- A template reads what is put in for a name as that member, if the name is an identifier. -/
theorem written?_hole {name : String} (word : ∀ c ∈ name.toList, isWord c = true) :
    written? .template accessor (literalBody .template params accessor (.hole name :: parts)) =
      if isIdentifierName name.toList then
        (written? .template accessor (literalBody .template params accessor parts)).map (.member name.toList :: ·)
      else none := by
  obtain ⟨ending, listed, whole⟩ := exists_inserted params accessor name
  rw [literalBody, fill_hole, whole]
  simp only [List.cons_append, List.append_assoc]
  rw [written?_substitution, substitution?_inserted word listed]
  split <;> rfl

/-- Whether what follows a dollar sign starts what is put in is seen on the pieces. -/
theorem startsSubstitution_literal (c : Char) :
    startsSubstitution kind c (literalBody kind params accessor parts) =
      (kind == .template && c == '$' && parts.head? == some (.literal '\x7b')) := by
  rw [startsSubstitution, Bool.and_comm (c == '$')]
  cases parts with
  | nil => cases kind <;> rfl
  | cons piece rest =>
      cases piece with
      | literal d =>
          rw [literalBody, fill_literal, List.cons_append, List.head?_cons, List.head?_cons]
          congr 1
          rw [Bool.eq_iff_iff, beq_iff_eq, beq_iff_eq, Option.some.injEq, Option.some.injEq, Piece.literal.injEq]
      | hole name =>
          obtain ⟨more, whole⟩ := inserted_opens params accessor name
          rw [literalBody, fill_hole, whole]
          rfl

theorem LiteralKind.isSpecial_mark (kind : LiteralKind) : kind.isSpecial kind.mark = true := by
  cases kind <;> rfl

theorem LiteralKind.isSpecial_escape (kind : LiteralKind) : kind.isSpecial '\\' = true := by
  cases kind <;> rfl

theorem LiteralKind.isSpecial_return (kind : LiteralKind) : kind.isSpecial '\r' = true := by
  cases kind <;> rfl

theorem LiteralKind.of_isSpecial {c : Char} (special : kind.isSpecial c = true) :
    c = kind.mark ∨ c = '\\' ∨ c = '\r' ∨ kind = .string ∧ c = '\n' := by
  cases kind with
  | string =>
      simp only [isSpecial, Bool.or_eq_true, beq_iff_eq] at special
      rcases special with ((rfl | rfl) | rfl) | rfl
      · exact .inl rfl
      · exact .inr (.inl rfl)
      · exact .inr (.inr (.inr ⟨rfl, rfl⟩))
      · exact .inr (.inr (.inl rfl))
  | template =>
      simp only [isSpecial, Bool.or_eq_true, beq_iff_eq] at special
      rcases special with (rfl | rfl) | rfl
      · exact .inl rfl
      · exact .inr (.inl rfl)
      · exact .inr (.inr (.inl rfl))

theorem written?_literal {c : Char} (plain : kind.isSpecial c = false)
    (closed : (kind == .template && c == '$' && parts.head? == some (.literal '\x7b')) = false) :
    written? kind accessor (literalBody kind params accessor (.literal c :: parts)) =
      (written? kind accessor (literalBody kind params accessor parts)).map ((charUnits c).map .code ++ ·) := by
  have different {d : Char} (special : kind.isSpecial d = true) : c ≠ d := by
    rintro rfl
    rw [special] at plain
    cases plain
  replace closed : startsSubstitution kind c (literalBody kind params accessor parts) = false :=
    (startsSubstitution_literal c).trans closed
  show written? kind accessor (c :: literalBody kind params accessor parts) = _
  by_cases lineFeed : c = '\n'
  · subst lineFeed
    cases kind with
    | string => cases plain
    | template => exact written?_lineBreak (.inl rfl)
  · exact written?_plain (different kind.isSpecial_mark) (different kind.isSpecial_escape)
      ⟨lineFeed, different kind.isSpecial_return⟩ closed

/-- What clean pieces are written as is read piece by piece, and denotes them. -/
theorem written?_of_isClean (fits : HolesFit kind parts) (clean : isClean kind parts = true) :
    written? kind accessor (literalBody kind params accessor parts) = some (parts.flatMap writtenOf) := by
  induction parts with
  | nil => exact written?_mark
  | cons piece rest ih =>
      cases piece with
      | literal c =>
          rw [isClean, Bool.and_eq_true, Bool.and_eq_true, Bool.not_eq_true', Bool.not_eq_true'] at clean
          rw [written?_literal clean.1.1 clean.1.2, ih fits.tail clean.2]
          rfl
      | hole name =>
          rw [isClean, Bool.and_eq_true] at clean
          obtain ⟨rfl, word⟩ := fits name List.mem_cons_self
          rw [written?_hole word, if_pos clean.1, ih fits.tail clean.2]
          rfl

theorem putBack_writtenOf (parts : List Piece) : Written.putBack (parts.flatMap writtenOf) = pieceUnits parts := by
  induction parts with
  | nil => rfl
  | cons piece rest ih =>
      rw [List.flatMap_cons]
      cases piece with
      | literal c => rw [writtenOf, putBack_codes, ih, pieceUnits_literal]
      | hole name => rw [writtenOf, List.singleton_append, putBack_member, ih, pieceUnits_hole]

/-! ## Where the text of a path ends -/

/-- Whether a text, where it starts the body of a literal, goes into nothing that is put in and not past the end. -/
def staysLiteral (mark : Char) : List Char → Bool
  | [] => true
  | c :: rest => c != mark && (c != '$' || rest.head?.any (· != '\x7b')) && staysLiteral mark rest

theorem exists_pieces_of_staysLiteral {used after : List Char} (stays : staysLiteral kind.mark used = true)
    (whole : literalBody kind params accessor parts = used ++ after) :
    ∃ rest, parts = used.map .literal ++ rest ∧ after = literalBody kind params accessor rest := by
  induction used generalizing parts with
  | nil => exact ⟨parts, rfl, whole.symm⟩
  | cons c used ih =>
      rw [staysLiteral, Bool.and_eq_true, Bool.and_eq_true, bne_iff_ne, Bool.or_eq_true, bne_iff_ne] at stays
      obtain ⟨⟨notMark, closed⟩, later⟩ := stays
      cases parts with
      | nil => exact absurd (List.cons.inj whole).1.symm notMark
      | cons piece rest =>
          cases piece with
          | literal d =>
              obtain ⟨rfl, goesOn⟩ := List.cons.inj whole
              obtain ⟨others, rfl, last⟩ := ih later goesOn
              exact ⟨others, rfl, last⟩
          -- A hole would start with a dollar sign and a brace, which a text that stays literal has not.
          | hole name =>
              obtain ⟨more, opens⟩ := inserted_opens params accessor name
              rw [literalBody, fill_hole, opens] at whole
              obtain ⟨rfl, goesOn⟩ := List.cons.inj whole
              have next := closed.resolve_left fun other => other rfl
              cases used with
              | nil => cases next
              | cons d used => exact absurd (List.cons.inj goesOn).1.symm (bne_iff_ne.1 next)

theorem staysLiteral_of_plain {used : List Char} (plain : ∀ c ∈ used, isMark c = false) :
    staysLiteral kind.mark used = true := by
  induction used with
  | nil => rfl
  | cons c used ih =>
      have here := plain c List.mem_cons_self
      rw [isMark, Bool.or_eq_false_iff, Bool.or_eq_false_iff, beq_eq_false_iff_ne, beq_eq_false_iff_ne,
        beq_eq_false_iff_ne] at here
      have notMark : c ≠ kind.mark := by
        cases kind with
        | string => exact here.1.2
        | template => exact here.2
      rw [staysLiteral, ih fun d later => plain d (List.mem_cons_of_mem _ later), bne_iff_ne.2 notMark,
        bne_iff_ne.2 here.1.1]
      rfl

theorem staysLiteral_of_not_mem {mark : Char} {used : List Char} (apart : ∀ c ∈ used, c ≠ mark ∧ c ≠ '\x7b')
    (ends : used.getLast? ≠ some '$') : staysLiteral mark used = true := by
  induction used with
  | nil => rfl
  | cons c used ih =>
      have next : (c != '$' || used.head?.any (· != '\x7b')) = true := by
        cases used with
        | nil => rw [bne_iff_ne.2 fun same => ends (by rw [same]; rfl)]; rfl
        | cons d rest =>
            rw [List.head?_cons, Option.any_some,
              bne_iff_ne.2 (apart d (List.mem_cons_of_mem _ List.mem_cons_self)).2, Bool.or_true]
      rw [staysLiteral, next, bne_iff_ne.2 (apart c List.mem_cons_self).1]
      refine ih (fun d later => apart d (List.mem_cons_of_mem _ later)) ?_
      cases used with
      | nil => exact nofun
      | cons d rest => rwa [List.getLast?_cons_cons] at ends

/-- A member that a template reads where no name stands is written in the characters of the path alone. -/
theorem exists_pieces_of_substitution? {name after : List Char}
    (plain : ∀ c ∈ (accessor.read "").toList, c ≠ '\x60' ∧ c ≠ '\x7b')
    (read : substitution? accessor (literalBody .template params accessor parts) = some (name, after)) :
    ∃ ending ∈ substitutionEnds, ∃ rest,
      parts = ((accessor.read "").toList ++ (name ++ ending)).map .literal ++ rest ∧
        after = literalBody .template params accessor rest := by
  obtain ⟨isName, ending, listed, whole⟩ := substitution?_iff.1 read
  -- What is put in for a hole starts with a dollar sign and a brace, and no such pair is in the reading.
  suffices stays : staysLiteral LiteralKind.template.mark ((accessor.read "").toList ++ (name ++ ending)) = true from
    ⟨ending, listed, exists_pieces_of_staysLiteral stays (by simpa using whole)⟩
  have endings : ∀ ending ∈ substitutionEnds, (∀ c ∈ ending, c ≠ '\x60' ∧ c ≠ '\x7b') ∧
      ending ≠ [] ∧ ending.getLast? ≠ some '$' := by decide
  obtain ⟨isPlain, nonEmpty, ends⟩ := endings ending listed
  have goesOn : ∀ c ∈ name, isIdContinue c = true := by
    rw [isIdentifierName_eq, Bool.and_eq_true] at isName
    exact List.all_eq_true.1 isName.2
  refine staysLiteral_of_not_mem (fun c inside => ?_) ?_
  · rcases List.mem_append.1 inside with first | later
    · exact plain c first
    · rcases List.mem_append.1 later with inName | last
      · have continues := goesOn c inName
        constructor <;> rintro rfl <;> revert continues <;> decide
      · exact isPlain c last
  · rw [← List.append_assoc, List.getLast?_append_of_ne_nil _ nonEmpty]
    exact ends

/-! ## What is not clean denotes less than the path -/

/--
The weight of a code unit. A backslash weighs more than whatever an escape denotes, and more than all that is put in for
a name, which an escape before it spells out; a carriage return weighs more than a line feed.
-/
def weight (bound unit : Nat) : Nat := if unit = 92 then bound + 2 else if unit = 13 then 2 else 1

def weigh (bound : Nat) : List Nat → Nat
  | [] => 0
  | unit :: units => weight bound unit + weigh bound units

variable {bound : Nat}

@[simp] theorem weigh_nil : weigh bound [] = 0 := rfl

@[simp] theorem weigh_cons (unit : Nat) (units : List Nat) :
    weigh bound (unit :: units) = weight bound unit + weigh bound units := rfl

@[simp] theorem weigh_append (units units' : List Nat) :
    weigh bound (units ++ units') = weigh bound units + weigh bound units' := by
  induction units with
  | nil => rw [List.nil_append, weigh_nil, Nat.zero_add]
  | cons unit units ih => rw [List.cons_append, weigh_cons, weigh_cons, ih, Nat.add_assoc]

theorem weight_cases (bound unit : Nat) :
    weight bound unit = bound + 2 ∨ weight bound unit = 2 ∨ weight bound unit = 1 := by
  rw [weight]
  split
  · exact .inl rfl
  · split
    · exact .inr (.inl rfl)
    · exact .inr (.inr rfl)

theorem weight_of_ne {unit : Nat} (noEscape : unit ≠ 92) (noReturn : unit ≠ 13) : weight bound unit = 1 := by
  rw [weight, if_neg noEscape, if_neg noReturn]

theorem weigh_surrogates (high low : Nat) : weigh bound [0xd800 + high, 0xdc00 + low] = 2 := by
  rw [weigh_cons, weigh_cons, weigh_nil, weight_of_ne (by omega) (by omega), weight_of_ne (by omega) (by omega)]

theorem weigh_pointUnits_le (point : Nat) : weigh bound (pointUnits point) ≤ bound + 2 := by
  rw [pointUnits]
  split
  · rw [weigh_cons, weigh_nil]
    have := weight_cases bound point
    omega
  · rw [weigh_surrogates]
    omega

theorem weigh_charUnits_pos (c : Char) : 0 < weigh bound (charUnits c) := by
  rw [charUnits, pointUnits]
  split
  · rw [weigh_cons, weigh_nil]
    have := weight_cases bound c.toNat
    omega
  · rw [weigh_surrogates]
    exact Nat.succ_pos _

theorem weigh_textUnits_pos {chars : List Char} (nonEmpty : chars ≠ []) : 0 < weigh bound (textUnits chars) := by
  cases chars with
  | nil => exact absurd rfl nonEmpty
  | cons c rest =>
      rw [textUnits_cons, weigh_append]
      exact Nat.add_pos_left (weigh_charUnits_pos c) _

/-- Characters that mean themselves in a template wherever they stand. -/
def isQuiet (c : Char) : Bool := c != '$' && c != '\x60' && c != '\\' && c != '\r'

theorem ne_of_isQuiet {c d : Char} (quiet : isQuiet c = true) (other : isQuiet d = false) : c ≠ d := by
  rintro rfl
  rw [other] at quiet
  cases quiet

theorem weigh_charUnits_of_ne {c : Char} (noEscape : c ≠ '\\') (noReturn : c ≠ '\r') :
    weigh bound (charUnits c) = (charUnits c).length := by
  have differs {d : Char} (other : c ≠ d) : c.toNat ≠ d.toNat := fun same => other (Char.toNat_inj.1 same)
  rw [charUnits, pointUnits]
  split
  · rw [weigh_cons, weigh_nil, weight_of_ne (differs noEscape) (differs noReturn)]
    rfl
  · rw [weigh_surrogates]
    rfl

theorem weigh_textUnits_of_not_mem {chars : List Char} (apart : ∀ c ∈ chars, c ≠ '\\' ∧ c ≠ '\r') :
    weigh bound (textUnits chars) = (textUnits chars).length := by
  induction chars with
  | nil => rfl
  | cons c rest ih =>
      obtain ⟨noEscape, noReturn⟩ := apart c List.mem_cons_self
      rw [textUnits_cons, weigh_append, List.length_append, weigh_charUnits_of_ne noEscape noReturn,
        ih fun d later => apart d (List.mem_cons_of_mem _ later)]

/-- What an escape denotes weighs no more than the backslash and what follows it, without the least of both. -/
theorem weigh_escape {used : List Char} {units : List Nat} (escape : Escape used units) :
    weigh bound units < weigh bound (charUnits '\\') + weigh bound (textUnits used) := by
  have backslash : weigh bound (charUnits '\\') = bound + 2 := rfl
  rw [backslash]
  cases escape with
  | itself c =>
      have same : textUnits [c] = charUnits c := List.append_nil _
      rw [same]
      omega
  | coded nonEmpty plain short =>
      have positive : 0 < weigh bound (textUnits used) := weigh_textUnits_pos nonEmpty
      rcases short with rfl | ⟨point, rfl⟩
      · show 0 < _
        omega
      · have le : weigh bound (pointUnits point) ≤ bound + 2 := weigh_pointUnits_le point
        omega

/-- Whether pieces are clean and what is read denotes them, or it denotes something that weighs less. -/
def Accounted (bound : Nat) (kind : LiteralKind) (parts : List Piece) (found : List Written) : Prop :=
  (isClean kind parts = true ∧ Written.putBack found = pieceUnits parts) ∨
    weigh bound (Written.putBack found) < weigh bound (pieceUnits parts)

theorem Accounted.le (accounted : Accounted bound kind parts found) :
    weigh bound (Written.putBack found) ≤ weigh bound (pieceUnits parts) := by
  rcases accounted with ⟨-, same⟩ | less
  · exact Nat.le_of_eq (congrArg _ same)
  · exact Nat.le_of_lt less

theorem written?_quiet {chars rest : List Char} (quiet : ∀ c ∈ chars, isQuiet c = true) :
    written? .template accessor (chars ++ rest) =
      (written? .template accessor rest).map ((textUnits chars).map .code ++ ·) := by
  induction chars with
  | nil => exact Option.map_id'.symm
  | cons c chars ih =>
      have here := quiet c List.mem_cons_self
      have step : written? .template accessor (c :: (chars ++ rest)) =
          (written? .template accessor (chars ++ rest)).map ((charUnits c).map .code ++ ·) := by
        by_cases lineFeed : c = '\n'
        · subst lineFeed
          exact written?_lineBreak (.inl rfl)
        · have noStart : startsSubstitution .template c (chars ++ rest) = false := by
            rw [startsSubstitution, beq_eq_false_iff_ne.2 (ne_of_isQuiet here (d := '$') rfl)]
            rfl
          exact written?_plain (ne_of_isQuiet here rfl) (ne_of_isQuiet here rfl)
            ⟨lineFeed, ne_of_isQuiet here rfl⟩ noStart
      rw [List.cons_append, step, ih fun d later => quiet d (List.mem_cons_of_mem _ later), Option.map_map]
      congr 1
      funext found
      simp

/-- What a mutation or a query reads its path values from holds no character with a meaning in templates. -/
def IsQuietAccess (accessor : Accessor) : Prop :=
  ∀ c ∈ (accessor.read "").toList, isQuiet c = true ∧ c ≠ '\x7b'

theorem isQuiet_inserted (params : List Parameter) {name : String} (access : IsQuietAccess accessor)
    (word : ∀ c ∈ name.toList, isWord c = true) :
    ∃ rest, inserted params accessor name = '$' :: rest ∧ ∀ c ∈ rest, isQuiet c = true := by
  obtain ⟨ending, listed, whole⟩ := exists_inserted params accessor name
  refine ⟨_, whole, fun c inside => ?_⟩
  have endings : ∀ ending ∈ substitutionEnds, ∀ c ∈ ending, isQuiet c = true := by decide
  rcases List.mem_cons.1 inside with rfl | inside
  · rfl
  · rcases List.mem_append.1 inside with first | inside
    · exact (access c first).1
    · rcases List.mem_append.1 inside with inName | last
      · have isOne := word c inName
        cases quiet : isQuiet c with
        | true => rfl
        | false =>
            have marks : c = '$' ∨ c = '\x60' ∨ c = '\\' ∨ c = '\r' := by
              simpa [isQuiet, or_assoc, imp_iff_not_or] using quiet
            rcases marks with rfl | rfl | rfl | rfl <;> revert isOne <;> decide
      · exact endings ending listed c last

/-- Whether all that can be read of the pieces of a path is accounted for. -/
def ReadsWithin (bound : Nat) (kind : LiteralKind) (params : List Parameter) (accessor : Accessor)
    (parts : List Piece) : Prop :=
  ∀ found, written? kind accessor (literalBody kind params accessor parts) = some found →
    Accounted bound kind parts found

theorem readsWithin_literal {c : Char} (plain : kind.isSpecial c = false)
    (closed : (kind == .template && c == '$' && parts.head? == some (.literal '\x7b')) = false)
    (later : ReadsWithin bound kind params accessor parts) :
    ReadsWithin bound kind params accessor (.literal c :: parts) := by
  intro found read
  rw [written?_literal plain closed] at read
  obtain ⟨rest, isRest, rfl⟩ := Option.map_eq_some_iff.1 read
  rw [Accounted, isClean, plain, closed, putBack_codes, pieceUnits_literal, weigh_append, weigh_append]
  rcases later rest isRest with ⟨clean, same⟩ | less
  · exact .inl ⟨by rw [clean]; rfl, by rw [same]⟩
  · exact .inr (Nat.add_lt_add_left less _)

theorem readsWithin_hole {name : String} (word : ∀ c ∈ name.toList, isWord c = true)
    (later : ReadsWithin bound .template params accessor parts) :
    ReadsWithin bound .template params accessor (.hole name :: parts) := by
  intro found read
  rw [written?_hole word] at read
  split at read
  · next isName =>
      obtain ⟨rest, isRest, rfl⟩ := Option.map_eq_some_iff.1 read
      rw [Accounted, isClean, isName, putBack_member, pieceUnits_hole, weigh_append, weigh_append]
      rcases later rest isRest with ⟨clean, same⟩ | less
      · exact .inl ⟨clean, by rw [same]⟩
      · exact .inr (Nat.add_lt_add_left less _)
  · cases read

theorem readsWithin_mark : ReadsWithin bound kind params accessor (.literal kind.mark :: parts) := by
  intro found read
  have more : literalBody kind params accessor parts ≠ [] := List.append_ne_nil_of_right_ne_nil _ (List.cons_ne_nil _ _)
  have none : written? kind accessor (literalBody kind params accessor (.literal kind.mark :: parts)) = none :=
    written?_mark_cons more
  rw [none] at read
  cases read

theorem readsWithin_lineFeed : ReadsWithin bound .string params accessor (.literal '\n' :: parts) := by
  intro found read
  have none : written? .string accessor (literalBody .string params accessor (.literal '\n' :: parts)) = none :=
    written?_lineBreak_string (.inl rfl)
  rw [none] at read
  cases read

/-- A string holds no line break, and a template reads a carriage return, and a line feed after it, as one line feed. -/
theorem readsWithin_return (later : ∀ rest, rest <:+ parts → ReadsWithin bound kind params accessor rest) :
    ReadsWithin bound kind params accessor (.literal '\r' :: parts) := by
  intro found read
  cases kind with
  | string =>
      have none : written? .string accessor (literalBody .string params accessor (.literal '\r' :: parts)) = none :=
        written?_lineBreak_string (.inr rfl)
      rw [none] at read
      cases read
  | template =>
      obtain ⟨rest, isSuffix, isRest, short⟩ : ∃ rest, rest <:+ parts ∧
          afterBreak '\r' (literalBody .template params accessor parts) = literalBody .template params accessor rest ∧
          weigh bound (pieceUnits rest) ≤ weigh bound (pieceUnits parts) := by
        rw [afterBreak, beq_self_eq_true, Bool.true_and]
        split
        · next lineFeed =>
            cases parts with
            | nil => cases lineFeed
            | cons piece rest =>
                cases piece with
                | literal d =>
                    refine ⟨rest, List.suffix_cons _ _, rfl, ?_⟩
                    rw [pieceUnits_literal, weigh_append]
                    omega
                | hole name =>
                    obtain ⟨more, opens⟩ := inserted_opens params accessor name
                    rw [literalBody, fill_hole, opens] at lineFeed
                    cases beq_iff_eq.1 lineFeed
        · exact ⟨parts, List.suffix_refl _, rfl, Nat.le_refl _⟩
      have step : written? .template accessor (literalBody .template params accessor (.literal '\r' :: parts)) =
          (written? .template accessor (afterBreak '\r' (literalBody .template params accessor parts))).map
            (.code 10 :: ·) := written?_lineBreak (.inr rfl)
      rw [step, isRest] at read
      obtain ⟨others, isOthers, rfl⟩ := Option.map_eq_some_iff.1 read
      have le := (later rest isSuffix others isOthers).le
      have lineFeed : weight bound 10 = 1 := rfl
      have carriageReturn : weigh bound (charUnits '\r') = 2 := rfl
      refine .inr ?_
      show weigh bound (10 :: Written.putBack others) < _
      rw [weigh_cons, pieceUnits_literal, weigh_append, lineFeed, carriageReturn]
      omega

/-- A member that is read where the path has the text of such a reading is written with less than that text. -/
theorem readsWithin_dollar (access : IsQuietAccess accessor)
    (later : ∀ rest, rest <:+ parts → ReadsWithin bound .template params accessor rest) :
    ReadsWithin bound .template params accessor (.literal '$' :: .literal '\x7b' :: parts) := by
  intro found read
  change written? .template accessor ('$' :: '\x7b' :: literalBody .template params accessor parts) = _ at read
  rw [written?_substitution] at read
  obtain ⟨⟨name, after⟩, isMember, goesOn⟩ := Option.bind_eq_some_iff.1 read
  obtain ⟨others, isOthers, rfl⟩ := Option.map_eq_some_iff.1 goesOn
  obtain ⟨ending, listed, rest, rfl, rfl⟩ := exists_pieces_of_substitution?
    (fun c inside => ⟨ne_of_isQuiet (access c inside).1 rfl, (access c inside).2⟩) isMember
  have le := (later rest (List.suffix_append _ _) others isOthers).le
  have nonEmpty : ∀ ending ∈ substitutionEnds, ending ≠ [] := by decide
  have positive : 0 < weigh bound (textUnits ending) := weigh_textUnits_pos (nonEmpty ending listed)
  have dollar : weigh bound (charUnits '$') = 1 := rfl
  have opening : weigh bound (charUnits '\x7b') = 1 := rfl
  have closing : weigh bound (charUnits '\x7d') = 1 := rfl
  have nothing : weigh bound (textUnits []) = 0 := rfl
  refine .inr ?_
  rw [putBack_member, pieceUnits_literal, pieceUnits_literal, pieceUnits_literals]
  simp only [textUnits_cons, textUnits_append, weigh_append, dollar, opening, closing, nothing]
  omega

/-- What an escape takes from the body of a literal: characters of the path, or the start of what is put in. -/
theorem exists_pieces_of_escape {used after : List Char} {units : List Nat} (escape : Escape used units)
    (whole : literalBody kind params accessor parts = used ++ after) (goesOn : after ≠ []) :
    (∃ rest, parts = used.map .literal ++ rest ∧ after = literalBody kind params accessor rest) ∨
      ∃ name rest, parts = .hole name :: rest ∧ units = charUnits '$' ∧
        '$' :: after = inserted params accessor name ++ literalBody kind params accessor rest := by
  cases escape with
  | coded nonEmpty plain short => exact .inl (exists_pieces_of_staysLiteral (staysLiteral_of_plain plain) whole)
  | itself c =>
      cases parts with
      | nil => exact absurd (List.cons.inj whole).2.symm goesOn
      | cons piece rest =>
          cases piece with
          | literal d =>
              obtain ⟨rfl, last⟩ := List.cons.inj whole
              exact .inl ⟨rest, rfl, last.symm⟩
          | hole name =>
              obtain ⟨more, opens⟩ := inserted_opens params accessor name
              have body : literalBody kind params accessor (.hole name :: rest) =
                  inserted params accessor name ++ literalBody kind params accessor rest := by
                rw [literalBody, fill_hole, List.append_assoc]
                rfl
              have starts := body ▸ whole
              rw [opens] at starts
              obtain ⟨rfl, -⟩ := List.cons.inj starts
              exact .inr ⟨name, rest, rfl, rfl, (body ▸ whole).symm⟩

theorem readsWithin_escape (access : IsQuietAccess accessor) (fits : HolesFit kind parts)
    (bounded : ∀ name, .hole name ∈ parts → (textUnits (inserted params accessor name)).length ≤ bound)
    (later : ∀ rest, rest <:+ parts → ReadsWithin bound kind params accessor rest) :
    ReadsWithin bound kind params accessor (.literal '\\' :: parts) := by
  intro found read
  change written? kind accessor ('\\' :: literalBody kind params accessor parts) = _ at read
  rw [written?_escape] at read
  obtain ⟨⟨units, after⟩, isEscape, goesOn⟩ := Option.bind_eq_some_iff.1 read
  obtain ⟨others, isOthers, rfl⟩ := Option.map_eq_some_iff.1 goesOn
  obtain ⟨used, whole, escape⟩ := escape?_spec isEscape
  have nonEmpty : after ≠ [] := by
    rintro rfl
    rw [written?] at isOthers
    cases isOthers
  refine .inr ?_
  rw [putBack_codes, pieceUnits_literal, weigh_append, weigh_append]
  rcases exists_pieces_of_escape escape whole nonEmpty with ⟨rest, rfl, rfl⟩ | ⟨name, rest, rfl, rfl, same⟩
  · have le := (later rest (List.suffix_append _ _) others isOthers).le
    have less : weigh bound units < weigh bound (charUnits '\\') + weigh bound (textUnits used) := weigh_escape escape
    rw [pieceUnits_literals, weigh_append]
    omega
  · -- The escape takes the dollar sign, so what is put in is read as the characters that it is written in.
    obtain ⟨rfl, word⟩ := fits name List.mem_cons_self
    obtain ⟨tail, isInserted, quiet⟩ := isQuiet_inserted params access word
    rw [isInserted, List.cons_append] at same
    rw [(List.cons.inj same).2, written?_quiet quiet] at isOthers
    obtain ⟨last, isLast, rfl⟩ := Option.map_eq_some_iff.1 isOthers
    have le := (later rest (List.suffix_cons _ _) last isLast).le
    have short := bounded name List.mem_cons_self
    have all : weigh bound (charUnits '$') + weigh bound (textUnits tail) =
        (textUnits (inserted params accessor name)).length := by
      rw [isInserted, textUnits_cons, List.length_append, weigh_charUnits_of_ne (by decide) (by decide),
        weigh_textUnits_of_not_mem fun c inside =>
          ⟨ne_of_isQuiet (quiet c inside) rfl, ne_of_isQuiet (quiet c inside) rfl⟩]
    have backslash : weigh bound (charUnits '\\') = bound + 2 := rfl
    rw [putBack_codes, weigh_append, pieceUnits_hole, weigh_append, backslash]
    omega

/-- All that can be read of a path in a literal is accounted for. The induction is on the pieces of the path. -/
theorem readsWithin_of_suffix (access : IsQuietAccess accessor) (fits : HolesFit kind parts)
    (bounded : ∀ name, .hole name ∈ parts → (textUnits (inserted params accessor name)).length ≤ bound) :
    ∀ rest, rest <:+ parts → ReadsWithin bound kind params accessor rest := by
  induction parts with
  | nil =>
      intro rest isSuffix found read
      rw [List.suffix_nil.1 isSuffix] at read ⊢
      have none : written? kind accessor (literalBody kind params accessor []) = some [] := written?_mark
      rw [none] at read
      cases read
      exact .inl ⟨rfl, rfl⟩
  | cons piece parts ih =>
      have later := ih fits.tail fun name inside => bounded name (List.mem_cons_of_mem _ inside)
      intro rest isSuffix
      -- A shorter suffix is left to the induction; for the whole list the first piece tells how its reading starts.
      rcases List.suffix_cons_iff.1 isSuffix with rfl | below
      · cases piece with
        | hole name =>
            obtain ⟨rfl, word⟩ := fits name List.mem_cons_self
            exact readsWithin_hole word (later parts (List.suffix_refl _))
        | literal c =>
            cases plain : kind.isSpecial c with
            | true =>
                rcases LiteralKind.of_isSpecial plain with rfl | rfl | rfl | ⟨rfl, rfl⟩
                · exact readsWithin_mark
                · exact readsWithin_escape access fits.tail
                    (fun name inside => bounded name (List.mem_cons_of_mem _ inside)) later
                · exact readsWithin_return later
                · exact readsWithin_lineFeed
            | false =>
                cases opens : kind == .template && c == '$' && parts.head? == some (.literal '\x7b') with
                | false => exact readsWithin_literal plain opens (later parts (List.suffix_refl _))
                | true =>
                    rw [Bool.and_eq_true, Bool.and_eq_true, beq_iff_eq, beq_iff_eq, beq_iff_eq] at opens
                    obtain ⟨⟨rfl, rfl⟩, first⟩ := opens
                    obtain ⟨rest, rfl⟩ := List.head?_eq_some_iff.1 first
                    exact readsWithin_dollar access fun others below =>
                      later others (below.trans (List.suffix_cons _ _))
      · exact later rest below

/-- What is read of pieces in a literal denotes them exactly if they are clean. -/
theorem reads_iff_isClean (params : List Parameter) (access : IsQuietAccess accessor) (fits : HolesFit kind parts) :
    (∃ found, written? kind accessor (literalBody kind params accessor parts) = some found ∧
      Written.putBack found = pieceUnits parts) ↔ isClean kind parts = true := by
  constructor
  · rintro ⟨found, read, same⟩
    have bounded (name : String) (inside : .hole name ∈ parts) : (textUnits (inserted params accessor name)).length ≤
        (textUnits (fill (inserted params accessor) parts)).length := by
      obtain ⟨before, after, rfl⟩ := List.append_of_mem inside
      have whole : fill (inserted params accessor) (before ++ .hole name :: after) =
          fill (inserted params accessor) before ++
            (inserted params accessor name ++ fill (inserted params accessor) after) := List.flatMap_append
      rw [whole, textUnits_append, textUnits_append, List.length_append, List.length_append]
      omega
    rcases readsWithin_of_suffix access fits bounded parts (List.suffix_refl _) found read with ⟨clean, -⟩ | less
    · exact clean
    · rw [same] at less
      exact absurd less (Nat.lt_irrefl _)
  · exact fun clean => ⟨_, written?_of_isClean fits clean, putBack_writtenOf parts⟩

/-! ## Paths and names -/

/-- Whether a text is one literal from its first character to its last that denotes another text. -/
def Denotes (accessor : Accessor) (source text : List Char) : Prop :=
  ∃ found, Written.read? accessor source = some found ∧ Written.putBack found = textUnits text

/-- Whether a path means itself in the literal that is made of it: a string, or a template if there are parameters. -/
def isCleanPath (path : String) (params : List Parameter) : Bool :=
  if params.isEmpty then path.toList.all (!LiteralKind.string.isSpecial ·)
  else isClean .template (PathTemplate.ofText path)

theorem isClean_literals (chars : List Char) :
    isClean .string (chars.map .literal) = chars.all (!LiteralKind.string.isSpecial ·) := by
  induction chars with
  | nil => rfl
  | cons c rest ih =>
      rw [List.map_cons, isClean, ih, List.all_cons, show (LiteralKind.string == .template) = false from rfl,
        Bool.false_and, Bool.false_and, Bool.not_false, Bool.and_true]

theorem fill_literals (value : String → List Char) (chars : List Char) : fill value (chars.map .literal) = chars := by
  induction chars with
  | nil => rfl
  | cons c rest ih => rw [List.map_cons, fill_literal, ih]

theorem isQuietAccess_accessor (isQuery : Bool) : IsQuietAccess (Render.Hook.accessor isQuery) := by
  unfold IsQuietAccess
  cases isQuery <;> decide

theorem holesFit_ofText (path : String) : HolesFit .template (PathTemplate.ofText path) := by
  intro name inside
  have isName := isHoleName_of_hole inside
  rw [PathTemplate.isHoleName, Bool.and_eq_true, List.all_eq_true] at isName
  exact ⟨rfl, isName.2⟩

/-- The expression of a path is one literal that denotes the path exactly if the path means itself in it. -/
theorem denotes_pathExpression_iff (path : String) (params : List Parameter) (access : IsQuietAccess accessor) :
    Denotes accessor (pathExpression path params accessor).toList path.toList ↔ isCleanPath path params = true := by
  rw [pathExpression, isCleanPath]
  split
  · have fits : HolesFit .string (path.toList.map Piece.literal) := by
      intro name inside
      simp at inside
    have units : pieceUnits (path.toList.map .literal) = textUnits path.toList := by
      rw [pieceUnits, fill_literals]
    rw [← isClean_literals, ← reads_iff_isClean params access fits, units, Denotes]
    rw [literalBody, fill_literals, String.toList_append, String.toList_append]
    rfl
  · have units : pieceUnits (PathTemplate.ofText path) = textUnits path.toList := by
      rw [pieceUnits, PathTemplate.ofText, fill_pieces]
    have source : ("\x60" ++ String.ofList (fill (inserted params accessor) (PathTemplate.ofText path)) ++
        "\x60").toList = '\x60' :: literalBody .template params accessor (PathTemplate.ofText path) := by
      simp only [String.toList_append, String.toList_ofList]
      rfl
    rw [← reads_iff_isClean params access (holesFit_ofText path), units, Denotes]
    exact source ▸ Iff.rfl

/-- Whether a text has no line break that a string cannot hold. -/
def staysOnLine (chars : List Char) : Bool := chars.all fun c => c != '\n' && c != '\r'

/-- An escaped name is read back, unless a line break is in it. -/
theorem written?_escapeName (chars : List Char) :
    written? .string accessor (chars.flatMap escapeName ++ ['\x27']) =
      if staysOnLine chars then some ((textUnits chars).map .code) else none := by
  induction chars with
  | nil => exact written?_mark
  | cons c rest ih =>
      -- Character by character: an escape is taken back, a plain one stands for itself, a line break ends it all.
      have step : written? .string accessor (escapeName c ++ (rest.flatMap escapeName ++ ['\x27'])) =
          if c != '\n' && c != '\r' then
            (written? .string accessor (rest.flatMap escapeName ++ ['\x27'])).map ((charUnits c).map .code ++ ·)
          else none := by
        by_cases isEscape : c = '\\'
        · subst isEscape
          exact written?_escape
        · by_cases isQuote : c = '\x27'
          · subst isQuote
            exact written?_escape
          · have alone : escapeName c = [c] := by
              unfold escapeName
              split <;> first | contradiction | rfl
            rw [alone, List.singleton_append]
            split
            · next plain =>
                rw [Bool.and_eq_true, bne_iff_ne, bne_iff_ne] at plain
                have noStart : startsSubstitution .string c (rest.flatMap escapeName ++ ['\x27']) = false := by
                  rw [startsSubstitution, show (LiteralKind.string == .template) = false from rfl, Bool.and_false,
                    Bool.false_and]
                exact written?_plain isQuote isEscape plain noStart
            · next breaks =>
                rw [Bool.and_eq_true, bne_iff_ne, bne_iff_ne, ← not_or, not_not] at breaks
                exact written?_lineBreak_string breaks
      have onLine : staysOnLine (c :: rest) = ((c != '\n' && c != '\r') && staysOnLine rest) := rfl
      rw [List.flatMap_cons, List.append_assoc, step, ih, onLine]
      cases c != '\n' && c != '\r' with
      | false => rfl
      | true =>
          cases staysOnLine rest with
          | false => rfl
          | true =>
              rw [textUnits_cons, List.map_append]
              rfl

theorem isAscii_of_isNamePart {c : Char} (part : isNamePart c = true) : isAscii c = true := by
  simp only [isNamePart, isNameStart, isAsciiUpper, isAsciiLower, isAsciiDigit, Bool.or_eq_true, Bool.and_eq_true,
    decide_eq_true_eq, beq_iff_eq] at part
  rcases part with (((upper | lower) | rfl) | rfl) | digit
  · exact Naming.isAscii_of_le upper.2 rfl
  · exact Naming.isAscii_of_le lower.2 rfl
  · rfl
  · rfl
  · exact Naming.isAscii_of_le digit.2 rfl

theorem isIdentifierName_of_isIdentifier {chars : List Char} (identifier : isIdentifier chars = true) :
    isIdentifierName chars = true ∧ staysOnLine chars = true := by
  have part {c : Char} (part : isNamePart c = true) : (isNameStart c = true → isIdStart c = true) ∧
      isIdContinue c = true ∧ (c != '\n' && c != '\r') = true := by
    have ascii := isAscii_of_isNamePart part
    revert part
    exact Naming.forall_ascii (P := fun c => isNamePart c = true → (isNameStart c = true → isIdStart c = true) ∧
      isIdContinue c = true ∧ (c != '\n' && c != '\r') = true) (by decide) ascii
  cases chars with
  | nil => cases identifier
  | cons c rest =>
      rw [isIdentifier, Bool.and_eq_true, List.all_eq_true] at identifier
      have first := part (c := c) (by rw [isNamePart, identifier.1, Bool.true_or])
      rw [isIdentifierName, staysOnLine, List.all_cons, first.1 identifier.1, first.2.2,
        List.all_eq_true.2 fun d later => (part (identifier.2 d later)).2.1,
        List.all_eq_true.2 fun d later => (part (identifier.2 d later)).2.2]
      exact ⟨rfl, rfl⟩

/-- A name is written as an identifier or as one literal that denotes it, exactly if there is no line break in it. -/
theorem property_denotes_iff (accessor : Accessor) (name : String) :
    (property name = name ∧ isIdentifierName name.toList = true ∨
      (∃ rest, (property name).toList = '\x27' :: rest) ∧ Denotes accessor (property name).toList name.toList) ↔
        staysOnLine name.toList = true := by
  cases identifier : isIdentifier name.toList with
  | true =>
      obtain ⟨isName, onLine⟩ := isIdentifierName_of_isIdentifier identifier
      refine iff_of_true (.inl ⟨?_, isName⟩) onLine
      rw [property, propertyChars, if_pos identifier, String.ofList_toList]
  | false =>
      have source : (property name).toList = '\x27' :: (name.toList.flatMap escapeName ++ ['\x27']) := by
        rw [property, String.toList_ofList, propertyChars, identifier, if_neg (by decide)]
        rfl
      have read : Written.read? accessor (property name).toList =
          if staysOnLine name.toList then some ((textUnits name.toList).map .code) else none := by
        rw [source, ← written?_escapeName]
        rfl
      constructor
      · rintro (⟨same, isName⟩ | ⟨-, found, isRead, -⟩)
        · rw [← same, source] at isName
          cases isName
        · rw [read] at isRead
          split at isRead
          · assumption
          · cases isRead
      · intro onLine
        refine .inr ⟨⟨_, source⟩, _, read.trans (if_pos onLine), ?_⟩
        have codes := putBack_codes (textUnits name.toList) []
        rw [List.append_nil] at codes
        exact codes.trans (List.append_nil _)

/--
The expression that a hook has for a path is one whole literal that denotes the path, with what is put in back in its
braces, exactly if the path means itself in it. The name of a member is an identifier or one whole literal that denotes
it exactly if it stays on one line.
-/
theorem literals_denote_iff (path : String) (params : List Parameter) (isQuery : Bool) (name : String) :
    (Denotes (Render.Hook.accessor isQuery) (pathExpression path params (Render.Hook.accessor isQuery)).toList
      path.toList ↔ isCleanPath path params = true) ∧
    ((property name = name ∧ isIdentifierName name.toList = true ∨
      (∃ rest, (property name).toList = '\x27' :: rest) ∧
        Denotes (Render.Hook.accessor isQuery) (property name).toList name.toList) ↔
          staysOnLine name.toList = true) :=
  ⟨denotes_pathExpression_iff path params (isQuietAccess_accessor isQuery), property_denotes_iff _ name⟩

/-- A quote in a path ends its literal, and a line break in a name breaks it off. -/
theorem exists_broken_literals (isQuery : Bool) :
    (¬ Denotes (Render.Hook.accessor isQuery) (pathExpression "/it\x27s" [] (Render.Hook.accessor isQuery)).toList
      "/it\x27s".toList) ∧
    property "a\nb" = "\x27a\nb\x27" ∧
      ¬ Denotes (Render.Hook.accessor isQuery) (property "a\nb").toList "a\nb".toList := by
  refine ⟨fun denotes => ?_, by decide, fun denotes => ?_⟩
  · exact absurd ((denotes_pathExpression_iff _ _ (isQuietAccess_accessor isQuery)).1 denotes) (by decide)
  · have quoted : ∃ rest, (property "a\nb").toList = '\x27' :: rest :=
      ⟨"a\nb\x27".toList, by decide⟩
    exact absurd ((property_denotes_iff _ _).1 (.inr ⟨quoted, denotes⟩)) (by decide)

end QueryHooks.TypeScript
