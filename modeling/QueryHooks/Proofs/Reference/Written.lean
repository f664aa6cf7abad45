import QueryHooks.Proofs.Json.Names
import QueryHooks.Proofs.Reference.Name
import QueryHooks.Proofs.Text.Integer
import QueryHooks.Proofs.Value.Replace

/-!
Pointers that are written for places. Each step on the way is a segment behind a slash: the name of a key, in which
tildes and slashes are escaped, or the numeral of an index, and any character of it can be quoted. Such a pointer
leads to its place, whatever the names look like.
-/

namespace QueryHooks.Pointer

open Value (Step Location)
open Text.Percent (Quotes Spells)

variable {document v part : Value} {location : Location} {step : Step} {name pointer : String}
  {names : List String} {segment : List Char} {segments : List (List Char)}

/-! ## Segments -/

/-- A name as pointers have it, with `~0` for a tilde and `~1` for a slash. -/
def escape (name : List Char) : List Char :=
  name.flatMap fun c => if c = '~' then ['~', '0'] else if c = '/' then ['~', '1'] else [c]

theorem unescape_escape (name : List Char) : unescape (escape name) = name := by
  induction name with
  | nil => rfl
  | cons c rest ih =>
      rw [escape, List.flatMap_cons, ← escape]
      by_cases tilde : c = '~'
      · rw [if_pos tilde, tilde, List.cons_append, List.cons_append, List.nil_append, unescape, ih]
      · rw [if_neg tilde]
        by_cases slash : c = '/'
        · rw [if_pos slash, slash, List.cons_append, List.cons_append, List.nil_append, unescape, ih]
        · rw [if_neg slash, List.singleton_append, unescape_cons tilde, ih]

theorem slash_not_mem_escape (name : List Char) : '/' ∉ escape name := by
  intro inside
  obtain ⟨c, -, here⟩ := List.mem_flatMap.1 inside
  by_cases tilde : c = '~'
  · rw [if_pos tilde] at here
    exact absurd here (by decide)
  · rw [if_neg tilde] at here
    by_cases slash : c = '/'
    · rw [if_pos slash] at here
      exact absurd here (by decide)
    · rw [if_neg slash] at here
      exact slash (List.mem_singleton.1 here).symm

/-- The name that a segment writes for a step. Only keys that are texts have one. -/
def nameOf? : Step → Option String
  | .key (.text name) => some name
  | .key _ => none
  | .index i => some (Nat.repr i)

/-- Whether a segment writes a step: its name, escaped, then quoted. -/
def Writes (step : Step) (segment : List Char) : Prop :=
  ∃ name, nameOf? step = some name ∧ Quotes (escape name.toList) segment

/-- Whether a pointer writes a place: its steps in order, each behind a slash. -/
def IsWrittenFor (location : Location) (pointer : String) : Prop :=
  ∃ segments, List.Forall₂ Writes location segments ∧ pointer.toList = segments.flatMap ('/' :: ·)

theorem slash_not_mem_of_quotes {chars written : List Char} (quoted : Quotes chars written) (free : '/' ∉ chars) :
    '/' ∉ written := by
  induction quoted with
  | nil => exact free
  | kept _ _ ih =>
      obtain ⟨other, later⟩ := List.ne_and_not_mem_of_not_mem_cons free
      exact List.not_mem_cons_of_ne_of_not_mem other (ih later)
  | @coded c chars code written spelled _ ih =>
      have outside {octets : List UInt8} {code : List Char} (spelled : Spells octets code) : '/' ∉ code := by
        induction spelled with
        | nil => exact List.not_mem_nil
        | cons isHigh isLow _ ih =>
            have noDigit : Text.hexValue? '/' = none := by decide
            simp only [List.mem_cons, not_or]
            refine ⟨by decide, ?_, ?_, ih⟩
            · rintro rfl
              rw [noDigit] at isHigh
              cases isHigh
            · rintro rfl
              rw [noDigit] at isLow
              cases isLow
      exact fun inside => (List.mem_append.1 inside).elim (outside spelled)
        (ih (List.not_mem_of_not_mem_cons free))

theorem segmentOf_of_quotes (quoted : Quotes (escape name.toList) segment) : segmentOf segment = name := by
  rw [segmentOf, Text.Percent.decode_of_quotes quoted, unescape_escape, String.ofList_toList]

theorem exists_names (written : List.Forall₂ Writes location segments) :
    ∃ names, List.Forall₂ (fun step name => nameOf? step = some name) location names ∧
      segments.map segmentOf = names ∧ ∀ segment ∈ segments, '/' ∉ segment := by
  induction written with
  | nil => exact ⟨[], .nil, rfl, List.forall_mem_nil _⟩
  | cons first _ ih =>
      obtain ⟨name, named, quoted⟩ := first
      obtain ⟨names, others, same, free⟩ := ih
      refine ⟨name :: names, .cons named others, ?_, List.forall_mem_cons.2 ⟨?_, free⟩⟩
      · rw [List.map_cons, segmentOf_of_quotes quoted, same]
      · exact slash_not_mem_of_quotes quoted (slash_not_mem_escape _)

theorem eq_of_writes_nil (written : Writes step []) : step = .key (.text "") := by
  obtain ⟨name, named, quoted⟩ := written
  have nothing : segmentOf [] = "" := by
    rw [segmentOf, Text.Percent.decode_of_not_mem List.not_mem_nil]
    rfl
  rw [(segmentOf_of_quotes quoted).symm.trans nothing] at named
  cases step with
  | key k =>
      cases k with
      | text own => rw [Option.some.inj named]
      | _ => cases named
  | index i =>
      have digits := congrArg String.toList (Option.some.inj named)
      rw [Nat.toList_repr] at digits
      exact absurd digits Nat.toDigits_ne_nil

theorem segments_of_isWrittenFor (written : IsWrittenFor location pointer) (other : location ≠ [.key (.text "")]) :
    ∃ names, List.Forall₂ (fun step name => nameOf? step = some name) location names ∧
      segments? pointer = some names := by
  obtain ⟨segments, steps, whole⟩ := written
  obtain ⟨names, named, same, free⟩ := exists_names steps
  have pieces : Text.splitOn '/' pointer.toList = [] :: segments := by
    rw [whole, Text.splitOn_flatMap_cons free]
  refine ⟨names, named, (segments_eq_some_iff ?_).2 ⟨segments, pieces, same⟩⟩
  rintro rfl
  obtain rfl := (List.cons.inj pieces).2
  obtain ⟨step, single, isEmpty⟩ : ∃ step, location = [step] ∧ Writes step [] := by
    cases steps with
    | cons written none =>
        cases none
        exact ⟨_, rfl, written⟩
  exact other (eq_of_writes_nil isEmpty ▸ single)

/-! ## Places -/

theorem read?_repr {i : Nat} (short : i < 10 ^ Text.Integer.maxDecimalDigits) :
    Text.Integer.read? 10 (Nat.repr i).toList = some (Int.ofNat i) := by
  have digits : ∀ c ∈ Nat.toDigits 10 i, Text.isAsciiDigit c = true := by
    intro c inside
    have isDigit := Nat.isDigit_of_mem_toDigits (by decide) (by decide) inside
    rw [Char.isDigit, Bool.and_eq_true, decide_eq_true_eq, decide_eq_true_eq] at isDigit
    rw [Text.isAsciiDigit, Bool.and_eq_true, decide_eq_true_eq, decide_eq_true_eq]
    exact isDigit
  have fits : (Nat.toDigits 10 i).length ≤ Text.Integer.maxDecimalDigits :=
    (Nat.length_toDigits_le_iff (by decide) (by decide)).2 short
  rw [Nat.toList_repr, Text.Integer.read?_of_digits Nat.toDigits_ne_nil digits, if_pos fits,
    Nat.ofDigitChars_ten_toDigits]

theorem stepOf?_of_nameOf? (found : v.child? step = some part) (named : nameOf? step = some name)
    (short : ∀ i, step = .index i → i < 10 ^ Text.Integer.maxDecimalDigits) : stepOf? v name = some step := by
  cases v with
  | map entries =>
      cases step with
      | key k =>
          cases k with
          | text own => rw [stepOf?, Option.some.inj named]
          | _ => cases named
      | index i => cases found
  | list items =>
      cases step with
      | key k => cases found
      | index i =>
          have nonnegative : (0 : Int) ≤ Int.ofNat i := Int.natCast_nonneg i
          rw [stepOf?, ← Option.some.inj named, read?_repr (short i rfl), Option.bind_some, place?,
            if_pos nonnegative]
          rfl
  | _ => cases found

theorem location?_of_names (named : List.Forall₂ (fun step name => nameOf? step = some name) location names)
    (found : document.at? location = some v)
    (short : ∀ i, .index i ∈ location → i < 10 ^ Text.Integer.maxDecimalDigits) :
    location? document names = some location := by
  induction named generalizing document with
  | nil => rfl
  | cons first _ ih =>
      obtain ⟨child, here, below⟩ := Option.bind_eq_some_iff.1 found
      have taken := stepOf?_of_nameOf? here first fun i same => short i (same ▸ List.mem_cons_self)
      rw [location_cons taken here, ih below fun i later => short i (List.mem_cons_of_mem _ later), Option.map_some]

/-! ## The ways to write a place -/

theorem exists_quotes (chars : List Char) : ∃ written, Quotes chars written := by
  induction chars with
  | nil => exact ⟨[], .nil⟩
  | cons c rest ih =>
      obtain ⟨written, quoted⟩ := ih
      by_cases mark : c = '%'
      · subst mark
        exact ⟨_, .coded (Text.Percent.spells_encodeByte 37) quoted⟩
      · exact ⟨_, .kept mark quoted⟩

theorem exists_writes (textKeys : v.HasTextKeys) (found : v.child? step = some part) :
    ∃ segment, Writes step segment := by
  have named : ∃ name, nameOf? step = some name := by
    cases step with
    | index i => exact ⟨_, rfl⟩
    | key k =>
        cases v with
        | map entries =>
            obtain ⟨i, placed, _⟩ := Option.bind_eq_some_iff.1 found
            obtain ⟨bound, same, _⟩ := List.findIdx?_eq_some_iff_getElem.1 placed
            obtain ⟨e, member, own⟩ := List.mem_map.1 (List.getElem_mem bound)
            obtain ⟨name, isText⟩ := textKeys entries (Value.mem_all_self _) e member
            rw [← own, isText] at same
            exact ⟨name, by rw [Value.sameKey_of_text _ _ same]; rfl⟩
        | _ => cases found
  obtain ⟨name, named⟩ := named
  obtain ⟨segment, quoted⟩ := exists_quotes (escape name.toList)
  exact ⟨segment, name, named, quoted⟩

theorem exists_isWrittenFor (textKeys : document.HasTextKeys) (found : document.at? location = some v) :
    ∃ pointer, IsWrittenFor location pointer := by
  have steps : ∃ segments, List.Forall₂ Writes location segments := by
    induction location generalizing document with
    | nil => exact ⟨[], .nil⟩
    | cons step rest ih =>
        obtain ⟨child, here, below⟩ := Option.bind_eq_some_iff.1 found
        obtain ⟨segment, first⟩ := exists_writes textKeys here
        obtain ⟨segments, others⟩ := ih (textKeys.part (Value.mem_parts_of_child here)) below
        exact ⟨segment :: segments, .cons first others⟩
  obtain ⟨segments, steps⟩ := steps
  exact ⟨String.ofList (segments.flatMap ('/' :: ·)), segments, steps, String.toList_ofList⟩

/--
Every place in a document of text keys can be written, and each pointer that is written for it leads to what lies
there. The one exception is the value of an empty key at the top, since a lone slash stands for the document.
Indexes have to be readable, which allows for far longer lists than fit into memory.
-/
theorem follow_of_isWrittenFor (tree : document.IsTree) (textKeys : document.HasTextKeys)
    (found : document.at? location = some v) (other : location ≠ [.key (.text "")])
    (short : ∀ i, .index i ∈ location → i < 10 ^ Text.Integer.maxDecimalDigits) :
    (∃ pointer, IsWrittenFor location pointer) ∧
      ∀ pointer, IsWrittenFor location pointer → follow document pointer = .ok v := by
  refine ⟨exists_isWrittenFor textKeys found, fun pointer written => ?_⟩
  obtain ⟨names, named, segments⟩ := segments_of_isWrittenFor written other
  rw [follow, segments]
  exact (walk_ok_iff tree).2 ⟨location, location?_of_names named found short, found⟩

/-- A slash, escape-like text, a space and an accent in names, on a way through a list. -/
def escapeLike : Value :=
  .record [("a/b~1", .list [.null, .record [("%7E é", .int 5)]])]

theorem follow_escapeLike :
    IsWrittenFor [.key (.text "a/b~1"), .index 1, .key (.text "%7E é")] "/a~1b~01/1/%257E%20%c3%A9" ∧
      follow escapeLike "/a~1b~01/1/%257E%20%c3%A9" = .ok (.int 5) := by
  have first : Writes (.key (.text "a/b~1")) "a~1b~01".toList :=
    ⟨"a/b~1", rfl, Text.Percent.quotes_self (by decide)⟩
  have second : Writes (.index 1) "1".toList := ⟨"1", rfl, Text.Percent.quotes_self (by decide)⟩
  have third : Writes (.key (.text "%7E é")) "%257E%20%c3%A9".toList := by
    have percent : Spells (Text.Utf8.encodeOne '%') ['%', '2', '5'] := Text.Percent.spells_encodeByte 37
    have blank : Spells (Text.Utf8.encodeOne ' ') ['%', '2', '0'] := Text.Percent.spells_encodeByte 32
    have accent : Spells (Text.Utf8.encodeOne 'é') ['%', 'c', '3', '%', 'A', '9'] :=
      .cons (by decide) (by decide) (.cons (by decide) (by decide) .nil)
    have letters : Quotes ['7', 'E'] ['7', 'E'] := Text.Percent.quotes_self (by decide)
    exact ⟨"%7E é", rfl, .coded percent (letters.append (.coded blank (.coded accent .nil)))⟩
  have written : IsWrittenFor [.key (.text "a/b~1"), .index 1, .key (.text "%7E é")] "/a~1b~01/1/%257E%20%c3%A9" :=
    ⟨_, .cons first (.cons second (.cons third .nil)), by decide⟩
  have textKeys : escapeLike.HasTextKeys := by
    have inner : (Value.record [("%7E é", .int 5)]).HasTextKeys :=
      Value.hasTextKeys_map (List.forall_mem_singleton.2
        ⟨⟨_, rfl⟩, Value.hasTextKeys_of_parts rfl (List.forall_mem_nil _)⟩)
    have items : (Value.list [.null, .record [("%7E é", .int 5)]]).HasTextKeys :=
      Value.hasTextKeys_of_parts rfl (List.forall_mem_cons.2
        ⟨Value.hasTextKeys_of_parts rfl (List.forall_mem_nil _), List.forall_mem_singleton.2 inner⟩)
    exact Value.hasTextKeys_map (List.forall_mem_singleton.2 ⟨⟨_, rfl⟩, items⟩)
  have short : ∀ i, Step.index i ∈ [.key (.text "a/b~1"), .index 1, .key (.text "%7E é")] →
      i < 10 ^ Text.Integer.maxDecimalDigits := by
    intro i inside
    have one : i = 1 := by simpa using inside
    rw [one]
    exact Nat.one_lt_pow (by decide) (by decide)
  exact ⟨written, (follow_of_isWrittenFor (by decide) textKeys rfl (by simp) short).2 _ written⟩

end QueryHooks.Pointer
