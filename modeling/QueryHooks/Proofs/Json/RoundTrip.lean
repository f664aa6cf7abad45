import Mathlib.Data.List.Basic
import QueryHooks.Json.Reader
import QueryHooks.Json.Writer
import QueryHooks.Proofs.Text.Pieces

/-!
What is written as JSON is read back: texts, and lists and mappings of what is read back. The text of a value tells
where it ends, so this holds in front of every other text, and by that for the parts of a collection in turn.
-/

namespace QueryHooks

namespace Value

theorem put_of_not_mem {fields : List (String × Value)} {name : String} (fresh : name ∉ fields.map (·.1)) (v : Value) :
    put (.text name) v (fields.map fun (name, v) => (.text name, v)) =
      (fields ++ [(name, v)]).map fun (name, v) => (.text name, v) := by
  induction fields with
  | nil => rfl
  | cons field rest ih =>
      rw [List.map_cons, List.mem_cons, not_or] at fresh
      have other : sameKey (.text field.1) (.text name) = false := beq_eq_false_iff_ne.2 (Ne.symm fresh.1)
      rw [List.map_cons, put, other, if_neg Bool.false_ne_true, ih fresh.2]
      rfl

/-- Storing pairs with different keys keeps them all in their order. -/
theorem ofPairs_fields {fields : List (String × Value)} (distinct : (fields.map (·.1)).Nodup) :
    ofPairs (fields.map fun (name, v) => (.text name, v)) = fields.map fun (name, v) => (.text name, v) := by
  suffices stored : ∀ before : List (String × Value), ((before ++ fields).map (·.1)).Nodup →
      (fields.map fun (name, v) => (Value.text name, v)).foldl (fun entries entry => put entry.1 entry.2 entries)
        (before.map fun (name, v) => (.text name, v)) =
        (before ++ fields).map fun (name, v) => (.text name, v) from
    stored [] distinct
  clear distinct
  induction fields with
  | nil => exact fun before _ => by rw [List.append_nil]; rfl
  | cons field rest ih =>
      obtain ⟨name, v⟩ := field
      intro before distinct
      rw [List.append_cons] at distinct ⊢
      have fresh : name ∉ before.map (·.1) := by
        rw [List.map_append, List.map_append] at distinct
        have apart := (List.nodup_append.1 (List.nodup_append.1 distinct).1).2.2
        exact fun inside => apart _ inside _ (List.mem_singleton.2 rfl) rfl
      rw [List.map_cons, List.foldl_cons, ← ih (before ++ [(name, v)]) distinct, ← put_of_not_mem fresh]

end Value

namespace Json

open QueryHooks.Text.Quoted (hexDigit hexDigits)

variable {levels depth position start fuel : Nat} {chars rest spaces : List Char} {style : Style} {v : Value}

/-! ## Texts in quotes -/

theorem codeUnit_hexDigits : ∀ unit < 32,
    hexDigits 4 unit = ['0', '0', hexDigit (unit / 16), hexDigit (unit % 16)] ∧
      codeUnit? '0' '0' (hexDigit (unit / 16)) (hexDigit (unit % 16)) = some unit ∧
      Text.Half.isHigh unit = false ∧ Text.Half.isLow unit = false := by
  decide

/-- A character is read as it was written, if the text goes on. -/
theorem string_escape (start position : Nat) (c : Char) (seen : List Char) (more : rest ≠ []) :
    ∃ next, string start seen position (escape c ++ rest) = string start (c :: seen) next rest := by
  unfold escape
  split
  -- The last case has no escape of its own: a control character is written by its number, any other as itself.
  case h_8 noQuote noEscape _ _ _ _ _ =>
    split
    · next control =>
        obtain ⟨digits, unit, high, low⟩ := codeUnit_hexDigits c.toNat control
        obtain ⟨e, rest, rfl⟩ := List.exists_cons_of_ne_nil more
        have itself : Text.Half.ofUnit c.toNat = c := by
          rw [Text.Half.ofUnit, high, low, Bool.or_self, if_neg Bool.false_ne_true, Char.ofNat_toNat]
        refine ⟨position + 6, ?_⟩
        rw [digits, List.cons_append, List.cons_append, List.cons_append, List.cons_append, List.cons_append,
          List.cons_append, List.nil_append, string, unit]
        simp only [high, itself]
        rfl
    · next printable =>
        refine ⟨position + 1, ?_⟩
        rw [List.singleton_append, string]
        · exact if_neg printable
        all_goals simp_all
  all_goals
    refine ⟨position + 2, ?_⟩
    rw [List.cons_append, List.singleton_append, string]
    · rfl
    all_goals simp

/-- A text is read up to the quote behind it. -/
theorem string_flatMap_escape (start position : Nat) (chars rest seen : List Char) :
    ∃ next, string start seen position (chars.flatMap escape ++ '"' :: rest) =
      .ok ⟨String.ofList (seen.reverse ++ chars), next, rest⟩ := by
  induction chars generalizing seen position with
  | nil =>
      refine ⟨position + 1, ?_⟩
      rw [List.flatMap_nil, List.nil_append, string, List.append_nil]
  | cons c more ih =>
      have goesOn : more.flatMap escape ++ '"' :: rest ≠ [] := by simp
      obtain ⟨middle, step⟩ := string_escape start position c seen goesOn
      obtain ⟨next, others⟩ := ih middle (c :: seen)
      refine ⟨next, ?_⟩
      rw [List.flatMap_cons, List.append_assoc, step, others, List.reverse_cons, List.append_assoc,
        List.singleton_append]

theorem quoted_append (text : String) (rest : List Char) :
    (quoted text).toList ++ rest = '"' :: (text.toList.flatMap escape ++ '"' :: rest) := by
  rw [quoted, String.toList_ofList, List.append_assoc, List.cons_append, List.singleton_append]

/-! ## Spaces -/

def IsBlank (spaces : List Char) : Prop := ∀ c ∈ spaces, isSpace c = true

theorem skip_append (blank : IsBlank spaces) (rest : List Char) :
    skip position (spaces ++ rest) = skip (position + spaces.length) rest := by
  induction spaces generalizing position with
  | nil => rfl
  | cons space more ih =>
      obtain ⟨here, others⟩ := List.forall_mem_cons.1 blank
      rw [List.cons_append, skip, here, if_pos rfl, ih others, List.length_cons, Nat.add_assoc, Nat.add_comm 1]

theorem skip_solid {c : Char} (solid : isSpace c = false) : skip position (c :: rest) = (position, c :: rest) := by
  rw [skip, solid, if_neg Bool.false_ne_true]

theorem skip_blank (blank : IsBlank spaces) {c : Char} (solid : isSpace c = false) :
    skip position (spaces ++ c :: rest) = (position + spaces.length, c :: rest) := by
  rw [skip_append blank, skip_solid solid]

theorem isBlank_margin (depth : Nat) : IsBlank (margin depth).toList := by
  rw [margin, String.toList_ofList]
  intro c inside
  rcases List.mem_cons.1 inside with rfl | inside
  · rfl
  · rw [List.eq_of_mem_replicate inside]
    rfl

/-- The parts of a collection are apart by commas, with blanks behind those and at both ends. -/
theorem exists_enclose (style : Style) (opening closing : String) (parts : List String) (some : parts ≠ []) :
    ∃ before between after, IsBlank before ∧ IsBlank between ∧ IsBlank after ∧
      (enclose style opening closing parts).toList = opening.toList ++ (before ++
        ((',' :: between).intercalate (parts.map String.toList) ++ (after ++ closing.toList))) := by
  have blank : IsBlank [] := fun _ impossible => absurd impossible List.not_mem_nil
  obtain ⟨first, others, rfl⟩ := List.exists_cons_of_ne_nil some
  cases style with
  | compact =>
      refine ⟨[], [' '], [], blank, by simp [IsBlank, isSpace], blank, ?_⟩
      have comma : ", ".toList = [',', ' '] := rfl
      rw [enclose, String.toList_append, String.toList_append, String.toList_intercalate, comma, List.append_assoc]
      · rfl
      · exact some
  | indented depth =>
      refine ⟨(margin (depth + 1)).toList, (margin (depth + 1)).toList, (margin depth).toList, isBlank_margin _,
        isBlank_margin _, isBlank_margin _, ?_⟩
      have comma : ("," ++ margin (depth + 1)).toList = ',' :: (margin (depth + 1)).toList := by
        rw [String.toList_append]
        rfl
      rw [enclose, String.toList_append, String.toList_append, String.toList_append, String.toList_append,
        String.toList_intercalate, comma, List.append_assoc, List.append_assoc, List.append_assoc]
      exact some

/-! ## Values -/

theorem writeItems_eq_map (style : Style) (items : List Value) :
    writeItems style items = items.map (writeIn style) := by
  induction items with
  | nil => rfl
  | cons v rest ih => rw [writeItems, ih, List.map_cons]

/-- What is written of a member of a mapping. -/
def writeField (style : Style) (field : String × Value) : String := quoted field.1 ++ ": " ++ writeIn style field.2

theorem writeEntries_eq_map (style : Style) (fields : List (String × Value)) :
    writeEntries style (fields.map fun (name, v) => (.text name, v)) = fields.map (writeField style) := by
  induction fields with
  | nil => rfl
  | cons field rest ih => rw [List.map_cons, writeEntries, ih, List.map_cons]; rfl

/-- Whether a text is read as a value in front of any other, where so many more collections may lie in each other. -/
structure IsReadAs (levels : Nat) (chars : List Char) (v : Value) : Prop where
  opens : ∃ c ∈ ['"', '[', '\x7b'], ∃ more, chars = c :: more
  reads : ∀ fuel depth position rest, depth + levels ≤ maxDepth → chars.length ≤ fuel →
    ∃ next, value fuel depth position (chars ++ rest) = .ok ⟨v, next, rest⟩

/-- Values of texts, lists and mappings with names, which lie in so many collections at most. -/
inductive IsTextual : Nat → Value → Prop
  | text {levels : Nat} (s : String) : IsTextual levels (.text s)
  | list {levels : Nat} {items : List Value} (parts : ∀ v ∈ items, IsTextual levels v) :
      IsTextual (levels + 1) (.list items)
  | record {levels : Nat} {fields : List (String × Value)} (distinct : (fields.map (·.1)).Nodup)
      (parts : ∀ field ∈ fields, IsTextual levels field.2) : IsTextual (levels + 1) (.record fields)

theorem IsReadAs.solid (isRead : IsReadAs levels chars v) :
    ∃ c more, chars = c :: more ∧ isSpace c = false ∧ c ≠ ']' := by
  obtain ⟨c, opens, more, rfl⟩ := isRead.opens
  have known : ∀ c ∈ ['"', '[', '\x7b'], isSpace c = false ∧ c ≠ ']' := by decide
  exact ⟨c, more, rfl, known c opens⟩

/-- The items of a list are read with the bracket behind them. -/
theorem elements_intercalate (written : Value → List Char) (rest : List Char) {between after : List Char}
    (betweenBlank : IsBlank between) (afterBlank : IsBlank after) {items : List Value} (some : items ≠ [])
    (parts : ∀ v ∈ items, IsReadAs levels (written v) v) (shallow : depth + levels ≤ maxDepth) (fuel position : Nat)
    (room : ((',' :: between).intercalate (items.map written)).length < fuel) :
    ∃ next, elements fuel depth position
      ((',' :: between).intercalate (items.map written) ++ (after ++ ']' :: rest)) = .ok ⟨items, next, rest⟩ := by
  induction items generalizing fuel position with
  | nil => exact absurd rfl some
  | cons v others ih =>
      obtain ⟨first, parts⟩ := List.forall_mem_cons.1 parts
      obtain ⟨fuel, rfl⟩ := Nat.exists_eq_add_one_of_ne_zero (Nat.ne_of_gt (Nat.zero_lt_of_lt room))
      cases others with
      | nil =>
          rw [List.map_singleton, List.intercalate_singleton] at room ⊢
          obtain ⟨middle, here⟩ :=
            first.reads fuel depth position (after ++ ']' :: rest) shallow (Nat.le_of_lt_succ room)
          refine ⟨middle + after.length + 1, ?_⟩
          rw [elements, here]
          simp only [bind, Except.bind, skip_blank afterBlank (by decide : isSpace ']' = false)]
          rfl
      | cons w more =>
          -- The blanks behind the comma are skipped because the next item starts with a character that is none.
          obtain ⟨c, tail, opened, solid, -⟩ := (List.forall_mem_cons.1 parts).1.solid
          rw [List.map_cons, List.map_cons, List.intercalate_cons_cons, ← List.map_cons] at room ⊢
          simp only [List.length_append, List.length_cons] at room
          obtain ⟨middle, here⟩ := first.reads fuel depth position (',' :: (between ++
            ((',' :: between).intercalate ((w :: more).map written) ++ (after ++ ']' :: rest)))) shallow (by omega)
          obtain ⟨next, behind⟩ := ih (List.cons_ne_nil _ _) parts fuel (middle + 1 + between.length) (by omega)
          refine ⟨next, ?_⟩
          rw [List.append_assoc, List.append_assoc, List.cons_append, elements, here]
          simp only [bind, Except.bind, skip_solid (by decide : isSpace ',' = false)]
          rw [List.map_cons, opened] at behind ⊢
          obtain ⟨others, starts⟩ := Text.exists_intercalate_append c tail (',' :: between) (after ++ ']' :: rest)
            (more.map written)
          rw [starts] at behind ⊢
          simp only [skip_blank betweenBlank solid, behind]
          rfl

/-- What is written of a member of a mapping whose value is written with these characters. -/
def fieldChars (name : String) (chars : List Char) : List Char := (quoted name).toList ++ (": ".toList ++ chars)

/-- A member is the last one if a brace is behind it, and others follow behind a comma. -/
theorem members_field (name : String) (isRead : IsReadAs levels chars v) (shallow : depth + levels ≤ maxDepth)
    (fuel position : Nat) (room : chars.length ≤ fuel) (behind rest : List Char) : ∃ middle,
      (∀ after, IsBlank after → behind = after ++ '\x7d' :: rest →
        members (fuel + 1) depth position (fieldChars name chars ++ behind) =
          .ok ⟨[(.text name, v)], middle + after.length + 1, rest⟩) ∧
      ∀ more, behind = ',' :: more → members (fuel + 1) depth position (fieldChars name chars ++ behind) = do
        let r ← members fuel depth (skip (middle + 1) more).1 (skip (middle + 1) more).2
        return ⟨(.text name, v) :: r.value, r.position, r.rest⟩ := by
  obtain ⟨c, tail, opened, solid, -⟩ := isRead.solid
  have whole : fieldChars name chars ++ behind =
      '"' :: (name.toList.flatMap escape ++ '"' :: ':' :: ([' '] ++ (chars ++ behind))) := by
    rw [fieldChars, List.append_assoc, quoted_append, List.append_assoc]
    rfl
  obtain ⟨named, isName⟩ := string_flatMap_escape position (position + 1) name.toList
    (':' :: ([' '] ++ (chars ++ behind))) []
  rw [List.reverse_nil, List.nil_append, String.ofList_toList] at isName
  have gap : skip (named + 1) ([' '] ++ (chars ++ behind)) = (named + 1 + 1, chars ++ behind) := by
    rw [opened]
    exact skip_blank (by simp [IsBlank, isSpace]) solid
  obtain ⟨middle, here⟩ := isRead.reads fuel depth (named + 1 + 1) behind shallow room
  refine ⟨middle, ?_, ?_⟩
  · rintro after blank rfl
    rw [whole, members, isName]
    simp only [bind, Except.bind, skip_solid (by decide : isSpace ':' = false), gap, here,
      skip_blank blank (by decide : isSpace '\x7d' = false)]
    rfl
  · rintro more rfl
    rw [whole, members, isName]
    simp only [bind, Except.bind, skip_solid (by decide : isSpace ':' = false), gap, here,
      skip_solid (by decide : isSpace ',' = false)]

/-- The members of a mapping are read with the brace behind them. -/
theorem members_intercalate (written : Value → List Char) (rest : List Char) {between after : List Char}
    (betweenBlank : IsBlank between) (afterBlank : IsBlank after) {fields : List (String × Value)} (some : fields ≠ [])
    (parts : ∀ field ∈ fields, IsReadAs levels (written field.2) field.2) (shallow : depth + levels ≤ maxDepth)
    (fuel position : Nat)
    (room : ((',' :: between).intercalate
      (fields.map fun field => fieldChars field.1 (written field.2))).length < fuel) :
    ∃ next, members fuel depth position
      ((',' :: between).intercalate (fields.map fun field => fieldChars field.1 (written field.2)) ++
        (after ++ '\x7d' :: rest)) =
        .ok ⟨fields.map fun (name, v) => (.text name, v), next, rest⟩ := by
  induction fields generalizing fuel position with
  | nil => exact absurd rfl some
  | cons field others ih =>
      obtain ⟨first, parts⟩ := List.forall_mem_cons.1 parts
      obtain ⟨fuel, rfl⟩ := Nat.exists_eq_add_one_of_ne_zero (Nat.ne_of_gt (Nat.zero_lt_of_lt room))
      have shorter : (written field.2).length ≤ (fieldChars field.1 (written field.2)).length := by
        simp only [fieldChars, List.length_append]
        omega
      cases others with
      | nil =>
          rw [List.map_singleton, List.intercalate_singleton] at room ⊢
          obtain ⟨middle, last, -⟩ := members_field field.1 first shallow fuel position (by omega)
            (after ++ '\x7d' :: rest) rest
          exact ⟨_, last after afterBlank rfl⟩
      | cons other more =>
          rw [List.map_cons, List.map_cons, List.intercalate_cons_cons] at room ⊢
          simp only [List.length_append, List.length_cons] at room
          obtain ⟨middle, -, goesOn⟩ := members_field field.1 first shallow fuel position (by omega)
            (',' :: (between ++ ((',' :: between).intercalate
              (fieldChars other.1 (written other.2) :: more.map fun field => fieldChars field.1 (written field.2)) ++
                (after ++ '\x7d' :: rest)))) rest
          -- Each further member costs fuel once, and its text is longer than that.
          obtain ⟨next, behind⟩ := ih (List.cons_ne_nil _ _) parts fuel (middle + 1 + between.length)
            (by rw [List.map_cons]; omega)
          refine ⟨next, ?_⟩
          rw [List.append_assoc, List.append_assoc, List.cons_append]
          refine (goesOn _ rfl).trans ?_
          rw [List.map_cons, fieldChars, quoted_append] at behind
          rw [fieldChars, quoted_append]
          obtain ⟨others, starts⟩ := Text.exists_intercalate_append '"'
            (other.1.toList.flatMap escape ++ '"' :: (": ".toList ++ written other.2)) (',' :: between)
            (after ++ '\x7d' :: rest) (more.map fun field => fieldChars field.1 (written field.2))
          rw [starts] at behind ⊢
          rw [skip_blank betweenBlank (by decide : isSpace '"' = false), behind]
          rfl

theorem isReadAs_quoted (s : String) : IsReadAs levels (quoted s).toList (.text s) where
  opens := ⟨'"', .head _, _, by rw [← List.append_nil (quoted s).toList, quoted_append]⟩
  reads fuel depth position rest _ room := by
    rw [← List.append_nil (quoted s).toList, quoted_append, List.length_cons] at room
    obtain ⟨fuel, rfl⟩ := Nat.exists_eq_add_one_of_ne_zero (Nat.ne_of_gt (Nat.zero_lt_of_lt room))
    obtain ⟨next, isText⟩ := string_flatMap_escape position (position + 1) s.toList rest []
    refine ⟨next, ?_⟩
    rw [quoted_append, value, isText, List.reverse_nil, List.nil_append, String.ofList_toList]
    rfl

theorem isReadAs_list {items : List Value} (parts : ∀ v ∈ items, ∀ style, IsReadAs levels (writeIn style v).toList v)
    (style : Style) : IsReadAs (levels + 1) (writeIn style (.list items)).toList (.list items) := by
  rw [writeIn, writeItems_eq_map]
  by_cases some : items = []
  · subst some
    have empty : enclose style "[" "]" (([] : List Value).map (writeIn style.inner)) = "[]" := by cases style <;> rfl
    rw [empty]
    refine ⟨⟨'[', by decide, _, rfl⟩, fun fuel depth position rest shallow room => ⟨position + 1 + 1, ?_⟩⟩
    obtain ⟨fuel, rfl⟩ := Nat.exists_eq_add_one_of_ne_zero (Nat.ne_of_gt (Nat.zero_lt_of_lt room))
    have brackets : "[]".toList ++ rest = '[' :: ']' :: rest := rfl
    rw [brackets, value, if_neg (by omega), skip_solid (by decide)]
    rfl
  · obtain ⟨before, between, after, beforeBlank, betweenBlank, afterBlank, whole⟩ :=
      exists_enclose style "[" "]" (items.map (writeIn style.inner)) (by simpa using some)
    rw [whole, List.map_map]
    refine ⟨⟨'[', by decide, _, rfl⟩, fun fuel depth position rest shallow room => ?_⟩
    obtain ⟨fuel, rfl⟩ := Nat.exists_eq_add_one_of_ne_zero (Nat.ne_of_gt (Nat.zero_lt_of_lt room))
    have opening : "[".toList = ['['] := rfl
    have closing : "]".toList = [']'] := rfl
    rw [opening, closing, List.singleton_append] at room ⊢
    simp only [List.length_append, List.length_cons] at room
    have inner : depth + 1 + levels ≤ maxDepth := by omega
    obtain ⟨next, inside⟩ := elements_intercalate (String.toList ∘ writeIn style.inner) rest betweenBlank afterBlank
      some (fun v member => parts v member style.inner) inner fuel (position + 1 + before.length) (by omega)
    refine ⟨next, ?_⟩
    -- No written value starts with a bracket that closes, so the reader goes on to the items.
    obtain ⟨v, others, rfl⟩ := List.exists_cons_of_ne_nil some
    obtain ⟨c, tail, opened, solid, noEnd⟩ := (parts v (.head _) style.inner).solid
    obtain ⟨more, starts⟩ : ∃ more,
        (',' :: between).intercalate ((v :: others).map (String.toList ∘ writeIn style.inner)) ++
          (after ++ ']' :: rest) = c :: more := by
      rw [List.map_cons, Function.comp_apply, opened]
      exact Text.exists_intercalate_append ..
    rw [List.cons_append, List.append_assoc, List.append_assoc, List.append_assoc, List.singleton_append, value,
      if_neg (by omega), starts, skip_blank beforeBlank solid]
    rw [starts] at inside
    split
    · next same => exact absurd (List.cons.inj (Prod.mk.inj same).2).1 noEnd
    · next same =>
        obtain ⟨rfl, rfl⟩ := Prod.mk.inj same
        rw [inside]
        rfl

theorem isReadAs_record {fields : List (String × Value)} (distinct : (fields.map (·.1)).Nodup)
    (parts : ∀ field ∈ fields, ∀ style, IsReadAs levels (writeIn style field.2).toList field.2) (style : Style) :
    IsReadAs (levels + 1) (writeIn style (.record fields)).toList (.record fields) := by
  rw [Value.record, writeIn, writeEntries_eq_map]
  by_cases some : fields = []
  · subst some
    have empty : enclose style "\x7b" "\x7d" (([] : List (String × Value)).map (writeField style.inner)) =
        "\x7b\x7d" := by cases style <;> rfl
    rw [empty]
    refine ⟨⟨'\x7b', by decide, _, rfl⟩, fun fuel depth position rest shallow room => ⟨position + 1 + 1, ?_⟩⟩
    obtain ⟨fuel, rfl⟩ := Nat.exists_eq_add_one_of_ne_zero (Nat.ne_of_gt (Nat.zero_lt_of_lt room))
    have braces : "\x7b\x7d".toList ++ rest = '\x7b' :: '\x7d' :: rest := rfl
    rw [braces, value, if_neg (by omega), skip_solid (by decide)]
    rfl
  · obtain ⟨before, between, after, beforeBlank, betweenBlank, afterBlank, whole⟩ :=
      exists_enclose style "\x7b" "\x7d" (fields.map (writeField style.inner)) (by simpa using some)
    have chars : (fields.map (writeField style.inner)).map String.toList =
        fields.map fun field => fieldChars field.1 (writeIn style.inner field.2).toList := by
      rw [List.map_map]
      refine List.map_congr_left fun field _ => ?_
      rw [Function.comp_apply, writeField, String.toList_append, String.toList_append, List.append_assoc, fieldChars]
    rw [whole, chars]
    refine ⟨⟨'\x7b', by decide, _, rfl⟩, fun fuel depth position rest shallow room => ?_⟩
    obtain ⟨fuel, rfl⟩ := Nat.exists_eq_add_one_of_ne_zero (Nat.ne_of_gt (Nat.zero_lt_of_lt room))
    have opening : "\x7b".toList = ['\x7b'] := rfl
    have closing : "\x7d".toList = ['\x7d'] := rfl
    rw [opening, closing, List.singleton_append] at room ⊢
    simp only [List.length_append, List.length_cons] at room
    have inner : depth + 1 + levels ≤ maxDepth := by omega
    -- The members are read with all that stands behind them, and then a quote tells the first from a closing brace.
    obtain ⟨next, inside⟩ := members_intercalate (fun v => (writeIn style.inner v).toList) rest betweenBlank afterBlank
      some (fun field member => parts field member style.inner) inner fuel (position + 1 + before.length) (by omega)
    refine ⟨next, ?_⟩
    obtain ⟨field, others, rfl⟩ := List.exists_cons_of_ne_nil some
    obtain ⟨more, starts⟩ : ∃ more, (',' :: between).intercalate ((field :: others).map fun field =>
        fieldChars field.1 (writeIn style.inner field.2).toList) ++ (after ++ '\x7d' :: rest) = '"' :: more := by
      rw [List.map_cons, fieldChars, quoted_append]
      exact Text.exists_intercalate_append ..
    rw [List.cons_append, List.append_assoc, List.append_assoc, List.append_assoc, List.singleton_append, value,
      if_neg (by omega), starts, skip_blank beforeBlank (by decide)]
    rw [starts] at inside
    split
    · next same => cases (List.cons.inj (Prod.mk.inj same).2).1
    · next same =>
        obtain ⟨rfl, rfl⟩ := Prod.mk.inj same
        rw [inside]
        change Except.ok _ = Except.ok _
        rw [Value.ofPairs_fields distinct]

/-- A value of texts, lists and mappings is read as it was written, on one line or indented, whatever is behind it. -/
theorem isReadAs_writeIn (textual : IsTextual levels v) (style : Style) :
    IsReadAs levels (writeIn style v).toList v := by
  induction textual generalizing style with
  | text s => exact isReadAs_quoted s
  | list _ ih => exact isReadAs_list ih style
  | record distinct _ ih => exact isReadAs_record distinct ih style

/-- A text that is read as a value in front of others is read as it by itself, with blanks behind it. -/
theorem read_of_isReadAs (isRead : IsReadAs maxDepth chars v) (blank : IsBlank spaces) :
    read (chars ++ spaces) = .ok v := by
  obtain ⟨c, opens, tail, opened⟩ := isRead.opens
  have known : ∀ c ∈ ['"', '[', '\x7b'], isSpace c = false ∧ c ≠ '\uFEFF' := by decide
  obtain ⟨solid, noMark⟩ := known c opens
  obtain ⟨next, whole⟩ := isRead.reads ((chars ++ spaces).length + 1) 0 0 spaces (by omega)
    (by rw [List.length_append]; omega)
  have ends : skip next spaces = (next + spaces.length, []) := by
    rw [← List.append_nil spaces, skip_append blank, skip, List.append_nil]
  rw [opened, List.cons_append] at whole ⊢
  rw [read]
  · rw [skip_solid solid]
    simp only [bind, Except.bind, whole, ends]
    rfl
  · exact fun rest same => noMark (List.cons.inj same).1

theorem read_writeIn (textual : IsTextual maxDepth v) (style : Style) (blank : IsBlank spaces) :
    read ((writeIn style v).toList ++ spaces) = .ok v :=
  read_of_isReadAs (isReadAs_writeIn textual style) blank

end Json

end QueryHooks
