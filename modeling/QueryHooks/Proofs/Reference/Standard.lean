import QueryHooks.Proofs.Reference.Name
import QueryHooks.Proofs.Text.Integer

/-!
Pointers as RFC 6901 has them, and how those that are followed differ. A lone slash stands for the document; segments
are cut before they are decoded, so that an encoded slash is part of a name; a tilde that starts no escape stands for
itself. In all else what is followed is what the standard evaluates to, as long as the names that lists are given are
its array indexes or no integers.
-/

namespace QueryHooks.Pointer

variable {document v part : Value} {pointer token : String} {names : List String}

/-! ## The standard -/

/-- The name that a reference token writes. Each tilde starts an escape. -/
def token? : List Char → Option (List Char)
  | [] => some []
  | '~' :: '0' :: rest => (token? rest).map ('~' :: ·)
  | '~' :: '1' :: rest => (token? rest).map ('/' :: ·)
  | '~' :: _ => none
  | c :: rest => (token? rest).map (c :: ·)

/-- The names that a pointer writes: reference tokens, each behind a slash. -/
def tokens? (pointer : List Char) : Option (List String) :=
  match Text.splitOn '/' pointer with
  | [] :: pieces => pieces.mapM fun piece => (token? piece).map String.ofList
  | _ => none

/-- An array index: a zero, or digits of which the first is none. -/
def arrayIndex? : List Char → Option Nat
  | [] => none
  | ['0'] => some 0
  | c :: rest =>
      if c ≠ '0' ∧ (c :: rest).all Text.isAsciiDigit then some (Nat.ofDigitChars 10 (c :: rest) 0) else none

/-- What a name stands for in a collection: the value of a key that is equal, or the item at an index. -/
def member? (v : Value) (token : String) : Option Value :=
  match v with
  | .map entries => (Value.lookup token entries).map v.partOf
  | .list items => ((arrayIndex? token.toList).bind fun i => items[i]?).map v.partOf
  | _ => none

def evaluate? (v : Value) : List String → Option Value
  | [] => some v
  | token :: rest => (member? v token).bind fun part => evaluate? part rest

/-! ## Names that meet lists -/

/-- Whether a list is given an array index or no integer, and has an end within the numerals that can be read. -/
def TakesPlainly (v : Value) (token : String) : Prop :=
  ∀ items, v = .list items →
    (arrayIndex? token.toList ≠ none ∨ Text.Integer.read? 10 token.toList = none) ∧
      items.length ≤ 10 ^ Text.Integer.maxDecimalDigits

/-- Whether all lists on the way are given such names. -/
def TakesAllPlainly (v : Value) : List String → Prop
  | [] => True
  | token :: rest => TakesPlainly v token ∧ ∀ part, member? v token = some part → TakesAllPlainly part rest

theorem digits_of_arrayIndex? {chars : List Char} {i : Nat} (isIndex : arrayIndex? chars = some i) :
    chars ≠ [] ∧ (∀ c ∈ chars, Text.isAsciiDigit c = true) ∧ i = Nat.ofDigitChars 10 chars 0 ∧
      (i < 10 ^ Text.Integer.maxDecimalDigits → chars.length ≤ Text.Integer.maxDecimalDigits) := by
  unfold arrayIndex? at isIndex
  split at isIndex
  · cases isIndex
  · cases isIndex
    exact ⟨List.cons_ne_nil _ _, by decide, by decide, fun _ => by decide⟩
  · next c rest _ =>
      split at isIndex
      · next both =>
          obtain ⟨noZero, digits⟩ := both
          have all := List.all_eq_true.1 digits
          obtain rfl := Option.some.inj isIndex
          refine ⟨List.cons_ne_nil _ _, all, rfl, fun small => ?_⟩
          have large := Text.Integer.pow_length_le_ofDigitChars (all c List.mem_cons_self) noZero rest
          exact (Nat.pow_lt_pow_iff_right (by decide)).1 (Nat.lt_of_le_of_lt large small)
      · cases isIndex

theorem element_eq_member {items : List Value} (plain : TakesPlainly (.list items) token) :
    (Text.Integer.read? 10 token.toList).bind (element? items) =
      (arrayIndex? token.toList).bind fun i => items[i]? := by
  obtain ⟨known, fits⟩ := plain items rfl
  cases isIndex : arrayIndex? token.toList with
  | none =>
      rcases known with impossible | noInteger
      · exact absurd isIndex impossible
      · rw [noInteger]
        rfl
  | some i =>
      obtain ⟨nonempty, digits, value, short⟩ := digits_of_arrayIndex? isIndex
      rw [Text.Integer.read?_of_digits nonempty digits, ← value, Option.bind_some]
      split
      · rfl
      · next long =>
          have outside : items.length ≤ i := Nat.le_trans fits (Nat.le_of_not_lt fun small => long (short small))
          rw [Option.bind_none, List.getElem?_eq_none outside]

theorem step_ok_iff_member (plain : TakesPlainly v token) : step v token = .ok part ↔ member? v token = some part := by
  cases v with
  | map entries =>
      rw [step, member?]
      cases Value.lookup token entries <;> simp
  | list items =>
      rw [step, member?, element_eq_member plain]
      cases (arrayIndex? token.toList).bind fun i => items[i]? <;> simp
  | _ => simp [step, member?]

theorem walk_ok_iff_evaluate (plain : TakesAllPlainly document names) :
    walk document names = .ok v ↔ evaluate? document names = some v := by
  induction names generalizing document with
  | nil => rw [walk, evaluate?, Except.ok.injEq, Option.some.injEq]
  | cons token rest ih =>
      obtain ⟨first, later⟩ := plain
      rw [walk, evaluate?, Option.bind_eq_some_iff]
      cases taken : step document token with
      | ok part =>
          have here := (step_ok_iff_member first).1 taken
          rw [here]
          simp [ih (later part here)]
      | error problem =>
          constructor
          · intro impossible
            cases impossible
          · rintro ⟨part, here, _⟩
            rw [(step_ok_iff_member first).2 here] at taken
            cases taken

/-! ## Names that pointers write -/

theorem unescape_of_token? {written name : List Char} (isToken : token? written = some name) :
    unescape written = name := by
  fun_induction token? written generalizing name with
  | case1 => exact Option.some.inj isToken
  | case2 rest ih =>
      obtain ⟨name, below, rfl⟩ := Option.map_eq_some_iff.1 isToken
      rw [unescape, ih below]
  | case3 rest ih =>
      obtain ⟨name, below, rfl⟩ := Option.map_eq_some_iff.1 isToken
      rw [unescape, ih below]
  | case4 => cases isToken
  | case5 c rest _ _ other ih =>
      obtain ⟨name, below, rfl⟩ := Option.map_eq_some_iff.1 isToken
      rw [unescape_cons other, ih below]

/-- Whether no slash of a pointer is encoded, and each tilde of what it decodes to starts an escape. -/
def KeepsTokens (pointer : String) : Prop :=
  ∀ piece ∈ Text.splitOn '/' pointer.toList,
    '/' ∉ Text.Percent.decode piece ∧ token? (Text.Percent.decode piece) ≠ none

theorem mapM_token? {pieces : List (List Char)} (tokens : ∀ piece ∈ pieces, token? (Text.Percent.decode piece) ≠ none) :
    (pieces.map Text.Percent.decode).mapM (fun piece => (token? piece).map String.ofList) =
      some (pieces.map segmentOf) := by
  induction pieces with
  | nil => rfl
  | cons piece others ih =>
      obtain ⟨first, later⟩ := List.forall_mem_cons.1 tokens
      obtain ⟨name, isToken⟩ := Option.ne_none_iff_exists'.1 first
      have same : segmentOf piece = String.ofList name := by rw [segmentOf, unescape_of_token? isToken]
      rw [List.map_cons, List.mapM_cons, isToken, ih later, List.map_cons, same]
      rfl

/-- A pointer that keeps its tokens is decoded to a pointer of the standard, if it is one, and to the same names. -/
theorem tokens_decode (keeps : KeepsTokens pointer) (other : pointer ≠ "/") :
    tokens? (Text.Percent.decode pointer.toList) = segments? pointer := by
  have cut := Text.Percent.splitOn_decode (by decide) (by decide) (by decide) fun piece inside => (keeps piece inside).1
  ext names
  rw [segments_eq_some_iff other, tokens?, cut]
  cases pieces : Text.splitOn '/' pointer.toList with
  | nil => exact absurd pieces (Text.splitOn_ne_nil _ _)
  | cons first others =>
      have tokens := fun piece inside => (keeps piece (pieces ▸ List.mem_cons_of_mem first inside)).2
      cases first with
      | nil => simp [Text.Percent.decode_eq_nil_iff.2 rfl, mapM_token? tokens]
      | cons c rest =>
          obtain ⟨d, more, decoded⟩ := List.exists_cons_of_ne_nil
            (mt Text.Percent.decode_eq_nil_iff.1 (List.cons_ne_nil c rest))
          simp [decoded]

/--
What is followed, apart from integers that are no array indexes of the standard. A lone slash is the document. Of any
other pointer, nothing may be in front of the first slash, and the pieces behind it are decoded one by one, where a
tilde that starts no escape stands for itself; these names are evaluated as by the standard. So a pointer without
encoded slashes and such tildes is followed exactly when it is, once it is decoded, a pointer of the standard to an
existing node, and then to that node. Every other pointer is refused.
-/
theorem follow_standard (plain : ∀ names, segments? pointer = some names → TakesAllPlainly document names) :
    (pointer = "/" → follow document pointer = .ok document) ∧
      (pointer ≠ "/" → ∀ v, follow document pointer = .ok v ↔
        ∃ pieces, Text.splitOn '/' pointer.toList = [] :: pieces ∧
          evaluate? document (pieces.map segmentOf) = some v) ∧
      (pointer ≠ "/" → KeepsTokens pointer → ∀ v, follow document pointer = .ok v ↔
        ∃ names, tokens? (Text.Percent.decode pointer.toList) = some names ∧
          evaluate? document names = some v) := by
  have followed (v : Value) : follow document pointer = .ok v ↔
      ∃ names, segments? pointer = some names ∧ evaluate? document names = some v := by
    rw [follow]
    cases written : segments? pointer with
    | none => simp
    | some names => simp [walk_ok_iff_evaluate (plain names written)]
  refine ⟨?_, fun other v => ?_, fun other keeps v => ?_⟩
  · rintro rfl
    rfl
  · rw [followed]
    constructor
    · rintro ⟨names, written, found⟩
      obtain ⟨pieces, cut, rfl⟩ := (segments_eq_some_iff other).1 written
      exact ⟨pieces, cut, found⟩
    · rintro ⟨pieces, cut, found⟩
      exact ⟨_, (segments_eq_some_iff other).2 ⟨pieces, cut, rfl⟩, found⟩
  · rw [followed, tokens_decode keeps other]

/-- A space in a name, and a slash in one behind a list. -/
def spaced : Value :=
  .record [("a b", .list [.null, .record [("/", .int 5)]])]

theorem follow_spaced :
    (∀ names, segments? "/a%20b/1/~1" = some names → TakesAllPlainly spaced names) ∧
      "/a%20b/1/~1" ≠ "/" ∧ KeepsTokens "/a%20b/1/~1" ∧ follow spaced "/a%20b/1/~1" = .ok (.int 5) := by
  have blank : Text.Percent.Spells (Text.Utf8.encodeOne ' ') ['%', '2', '0'] := Text.Percent.spells_encodeByte 32
  have name : Text.Percent.decode "a%20b".toList = "a b".toList :=
    Text.Percent.decode_of_quotes (.kept (by decide) (.coded blank (.kept (by decide) .nil)))
  have index : Text.Percent.decode "1".toList = "1".toList := Text.Percent.decode_of_not_mem (by decide)
  have slash : Text.Percent.decode "~1".toList = "~1".toList := Text.Percent.decode_of_not_mem (by decide)
  have cut : Text.splitOn '/' "/a%20b/1/~1".toList = [[], "a%20b".toList, "1".toList, "~1".toList] := by decide
  have keeps : KeepsTokens "/a%20b/1/~1" := by
    unfold KeepsTokens
    rw [cut]
    simp only [List.forall_mem_cons, Text.Percent.decode_eq_nil_iff.2, name, index, slash]
    exact ⟨by decide, by decide, by decide, by decide, List.forall_mem_nil _⟩
  have written : segments? "/a%20b/1/~1" = some ["a b", "1", "/"] := by
    refine (segments_eq_some_iff (by decide)).2 ⟨_, cut, ?_⟩
    simp only [List.map_cons, List.map_nil, segmentOf, name, index, slash]
    decide
  have plain : ∀ names, segments? "/a%20b/1/~1" = some names → TakesAllPlainly spaced names := by
    intro names same
    obtain rfl := Option.some.inj (written.symm.trans same)
    have noList (entries : List (Value × Value)) (token : String) : TakesPlainly (.map entries) token := by
      intro items impossible
      cases impossible
    have fits : TakesPlainly (.list [.null, .record [("/", .int 5)]]) "1" := by
      intro items same
      obtain rfl := Value.list.inj same
      exact ⟨.inl (by decide), Nat.le_trans (by decide) (Nat.le_self_pow (by decide) 10)⟩
    refine ⟨noList _ _, fun part found => ?_⟩
    obtain rfl := Option.some.inj found
    refine ⟨fits, fun part found => ?_⟩
    obtain rfl := Option.some.inj found
    exact ⟨noList _ _, fun _ _ => trivial⟩
  refine ⟨plain, by decide, keeps, ((follow_standard plain).2.2 (by decide) keeps _).2 ⟨["a b", "1", "/"], ?_, rfl⟩⟩
  rw [tokens_decode keeps (by decide), written]

/--
Where pointers are followed otherwise: a lone slash is no empty name, an encoded slash does not part names, and a
tilde before another character stands for itself.
-/
theorem follow_astray :
    (follow (.record [("", .int 1)]) "/" = .ok (.record [("", .int 1)]) ∧
      tokens? (Text.Percent.decode "/".toList) = some [""] ∧
      evaluate? (.record [("", .int 1)]) [""] = some (.int 1)) ∧
    (follow (.record [("a/b", .int 1)]) "/a%2Fb" = .ok (.int 1) ∧
      tokens? (Text.Percent.decode "/a%2Fb".toList) = some ["a", "b"] ∧
      evaluate? (.record [("a/b", .int 1)]) ["a", "b"] = none) ∧
    (follow (.record [("~2", .int 1)]) "/~2" = .ok (.int 1) ∧
      tokens? (Text.Percent.decode "/~2".toList) = none) := by
  have slash : Text.Percent.Spells (Text.Utf8.encodeOne '/') ['%', '2', 'F'] := Text.Percent.spells_encodeByte 47
  have quoted : Text.Percent.Quotes "a/b".toList "a%2Fb".toList :=
    .kept (by decide) (.coded slash (.kept (by decide) .nil))
  have name : Text.Percent.decode "a%2Fb".toList = "a/b".toList := Text.Percent.decode_of_quotes quoted
  have whole : Text.Percent.decode "/a%2Fb".toList = "/a/b".toList :=
    Text.Percent.decode_of_quotes (.kept (by decide) quoted)
  have tilde : Text.Percent.decode "~2".toList = "~2".toList := Text.Percent.decode_of_not_mem (by decide)
  have encoded : segments? "/a%2Fb" = some ["a/b"] := by
    refine (segments_eq_some_iff (by decide)).2 ⟨["a%2Fb".toList], by decide, ?_⟩
    rw [List.map_singleton, segmentOf, name]
    decide
  have unescaped : segments? "/~2" = some ["~2"] := by
    refine (segments_eq_some_iff (by decide)).2 ⟨["~2".toList], by decide, ?_⟩
    rw [List.map_singleton, segmentOf, tilde]
    decide
  refine ⟨⟨rfl, ?_, rfl⟩, ⟨?_, ?_, rfl⟩, ?_, ?_⟩
  · rw [Text.Percent.decode_of_not_mem (by decide)]
    rfl
  · rw [follow, encoded]
    rfl
  · rw [whole]
    rfl
  · rw [follow, unescaped]
    rfl
  · rw [Text.Percent.decode_of_not_mem (by decide)]
    rfl

end QueryHooks.Pointer
