import QueryHooks.Proofs.Text.Pieces
import QueryHooks.Proofs.TypeScript.PathLiteral
import QueryHooks.Proofs.TypeScript.Tokens
import QueryHooks.TypeScript.Types

/-!
Object types as the language reads them: members with a key each, which is a name or a text in quotes, and that may be
optional. They end in semicolons, of which the last can be left out. Other types are names, with names as arguments or
as those of a list's items, and are not looked into.
-/

namespace QueryHooks.TypeScript

/-- What is read of a type. -/
inductive TypeForm
  | plain
  | object (members : List (List Nat × TypeForm))

namespace TypeForm

/-- Text behind white space and line ends. -/
def gap (chars : List Char) : List Char := chars.dropWhile Token.isGap

/-- The text behind a type that is no object type. -/
def plain? (chars : List Char) : Option (List Char) :=
  if isIdentifierName (chars.takeWhile isIdContinue) then
    match chars.dropWhile isIdContinue with
    | '<' :: rest =>
        if (Text.splitOn ',' (rest.takeWhile (· != '>'))).all fun name => isIdentifierName (gap name) then
          match rest.dropWhile (· != '>') with
          | '>' :: after => some after
          | _ => none
        else none
    | '[' :: ']' :: after => some after
    | after => some after
  else none

/-- The code units of the key that a member starts with. -/
def key? : List Char → Option (List Nat × List Char)
  | '\x27' :: rest => Token.inside? '\x27' rest
  | '"' :: rest => Token.inside? '"' rest
  | chars =>
      if isIdentifierName (chars.takeWhile isIdContinue) then
        some (textUnits (chars.takeWhile isIdContinue), chars.dropWhile isIdContinue)
      else none

/-- The text behind the colon of a member, before which it may be made optional. -/
def colon? (chars : List Char) : Option (List Char) :=
  match gap chars with
  | ':' :: after => some after
  | '?' :: rest =>
      match gap rest with
      | ':' :: after => some after
      | _ => none
  | _ => none

mutual

/-- A type, nested at most `fuel` deep and wide, and the text behind it. -/
def type? (fuel : Nat) (chars : List Char) : Option (TypeForm × List Char) :=
  match fuel with
  | 0 => none
  | fuel + 1 =>
      match chars with
      | '\x7b' :: rest => (members? fuel (gap rest)).map fun (members, after) => (.object members, after)
      | chars => (plain? chars).map fun after => (.plain, after)

/-- The members of an object type, up to its closing brace. -/
def members? (fuel : Nat) (chars : List Char) : Option (List (List Nat × TypeForm) × List Char) :=
  match fuel with
  | 0 => none
  | fuel + 1 =>
      match chars with
      | '\x7d' :: rest => some ([], rest)
      | chars => do
          let (key, rest) ← key? chars
          let rest ← colon? rest
          let (form, rest) ← type? fuel (gap rest)
          (more? fuel rest).map fun (more, after) => ((key, form) :: more, after)

/-- The members behind one of them. -/
def more? (fuel : Nat) (chars : List Char) : Option (List (List Nat × TypeForm) × List Char) :=
  match fuel with
  | 0 => none
  | fuel + 1 =>
      match gap chars with
      | ';' :: rest => members? fuel (gap rest)
      | '\x7d' :: rest => some ([], rest)
      | _ => none

end

/-- The type that a text starts with. -/
def read? (chars : List Char) : Option (TypeForm × List Char) := type? chars.length chars

def keys : TypeForm → List (List Nat)
  | .plain => []
  | .object members => members.map (·.1)

variable {chars rest : List Char} {legible : Bool} {form : TypeForm} {name : String} {fuel : Nat}

/-! ## Keys -/

theorem spells_escapeName {c : Char} (noBreak : c ≠ '\n' ∧ c ≠ '\r') : Token.Spells '\x27' c (escapeName c) := by
  unfold escapeName
  split
  · exact .escaped (by decide) fun _ => rfl
  · exact .escaped (by decide) fun _ => rfl
  · next noEscape noQuote => exact .itself noQuote noEscape noBreak

theorem inside?_escapeName (chars rest : List Char) :
    Token.inside? '\x27' (chars.flatMap escapeName ++ '\x27' :: rest) =
      if staysOnLine chars then some (textUnits chars, rest) else none := by
  induction chars with
  | nil => exact Token.inside?_mark rest
  | cons c more ih =>
      have onLine : staysOnLine (c :: more) = ((c != '\n' && c != '\r') && staysOnLine more) := rfl
      rw [List.flatMap_cons, List.append_assoc, onLine]
      by_cases noBreak : c ≠ '\n' ∧ c ≠ '\r'
      · have plain : (c != '\n' && c != '\r') = true := by
          rw [Bool.and_eq_true, bne_iff_ne, bne_iff_ne]
          exact noBreak
        rw [Token.inside?_spells (spells_escapeName noBreak), ih, plain, Bool.true_and]
        cases staysOnLine more <;> rfl
      · have isBreak : c = '\n' ∨ c = '\r' := by
          by_cases isFeed : c = '\n'
          · exact .inl isFeed
          · exact .inr (Decidable.byContradiction fun noReturn => noBreak ⟨isFeed, noReturn⟩)
        rcases isBreak with rfl | rfl
        · exact Token.inside?_lineEnd (.inl rfl) (by decide) _
        · exact Token.inside?_lineEnd (.inr rfl) (by decide) _

/-- A property name is read as the text that it is written for, if it stays on its line. -/
theorem key?_property (name : String) (ends : rest.head?.any isIdContinue = false) : key? ((property name).toList ++ rest) =
    if staysOnLine name.toList then some (textUnits name.toList, rest) else none := by
  rw [property, String.toList_ofList, propertyChars]
  cases identifier : isIdentifier name.toList with
  | true =>
      obtain ⟨isName, onLine⟩ := isIdentifierName_of_isIdentifier identifier
      obtain ⟨isFirst, isRest⟩ := takeWhile_name isName ends
      have noQuote (quote : Char) (other : isIdContinue quote = false) (behind : List Char) :
          name.toList ++ rest ≠ quote :: behind := fun same => by
        rw [same] at isFirst
        rw [List.takeWhile_cons_of_neg (by rw [other]; decide)] at isFirst
        rw [← isFirst] at isName
        cases isName
      rw [if_pos rfl, key?, isFirst, isRest, isName, onLine]
      · exact noQuote '\x27' (by decide)
      · exact noQuote '"' (by decide)
  | false =>
      have quoted :
          (if false = true then name.toList else '\x27' :: name.toList.flatMap escapeName ++ ['\x27']) ++ rest =
            '\x27' :: (name.toList.flatMap escapeName ++ '\x27' :: rest) := by
        simp
      rw [quoted, key?, inside?_escapeName]

/-! ## Members -/

/-- What can stand behind a type: the end of a member, a blank, or nothing. -/
def Stops (rest : List Char) : Prop := ∀ c ∈ rest.head?, c ∈ [';', ' ', '\n']

/-- Whether a text is read as a type, whatever stands behind it, exactly if a condition holds. -/
def Reads (chars : List Char) (legible : Bool) (form : TypeForm) : Prop :=
  ∀ fuel rest, chars.length ≤ fuel → Stops rest →
    type? fuel (chars ++ rest) = if legible then some (form, rest) else none

/-- A member as it is written, with its key and its type. -/
structure Member where
  chars : List Char
  legible : Bool
  key : List Nat
  form : TypeForm

namespace Member

def entry (m : Member) : List Nat × TypeForm := (m.key, m.form)

/-- Whether a member is read with those behind it, exactly if it is legible. -/
structure IsRead (m : Member) : Prop where
  opens : ∃ c more, m.chars = c :: more ∧ Token.isGap c = false ∧ c ≠ '\x7d'
  reads : ∀ fuel rest, m.chars.length ≤ fuel → Stops rest → members? (fuel + 1) (m.chars ++ rest) =
    if m.legible then (more? fuel rest).map fun (more, after) => (m.entry :: more, after) else none

end Member

/-- A member of a name and a type, which may be optional. -/
def written (name : String) (optional : Bool) (chars : List Char) (legible : Bool) (form : TypeForm) : Member where
  chars := (property name).toList ++ ((if optional then "?" else "").toList ++ (": ".toList ++ chars))
  legible := staysOnLine name.toList && legible
  key := textUnits name.toList
  form := form

theorem colon?_mark (optional : Bool) (rest : List Char) :
    colon? ((if optional then "?" else "").toList ++ (": ".toList ++ rest)) = some (' ' :: rest) := by
  cases optional <;> rfl

theorem gap_of_solid {c : Char} (solid : Token.isGap c = false) : gap (c :: rest) = c :: rest := by
  rw [gap, List.dropWhile_cons_of_neg (by rw [solid]; decide)]

theorem exists_property (name : String) :
    ∃ c more, (property name).toList = c :: more ∧ Token.isGap c = false ∧ c ≠ '\x7d' := by
  rw [property, String.toList_ofList, propertyChars]
  split
  · next identifier =>
      cases whole : name.toList with
      | nil => rw [whole] at identifier; cases identifier
      | cons c more =>
          rw [whole, isIdentifier, Bool.and_eq_true] at identifier
          have ascii := isAscii_of_isNamePart (c := c) (by rw [isNamePart, identifier.1, Bool.true_or])
          have solid := Naming.forall_ascii (P := fun c => isNameStart c = true → Token.isGap c = false ∧ c ≠ '\x7d')
            (by decide) ascii identifier.1
          exact ⟨c, more, rfl, solid⟩
  · exact ⟨'\x27', _, rfl, by decide⟩

theorem isRead_written (optional : Bool) (reads : Reads chars legible form)
    (solid : ∃ c more, chars = c :: more ∧ Token.isGap c = false) :
    (written name optional chars legible form).IsRead := by
  obtain ⟨c, more, opened, noGap, noBrace⟩ := exists_property name
  constructor
  · refine ⟨c, more ++ ((if optional then "?" else "").toList ++ (": ".toList ++ chars)), ?_, noGap, noBrace⟩
    rw [written, opened, List.cons_append]
  · intro fuel rest room stops
    have ends : ((if optional then "?" else "").toList ++ (": ".toList ++ (chars ++ rest))).head?.any isIdContinue =
        false := by cases optional <;> rfl
    -- The name ends at a question mark or a colon, so the key is read as the property was written.
    have isKey := key?_property name ends
    obtain ⟨d, others, typed, dense⟩ := solid
    have space : gap (' ' :: (chars ++ rest)) = chars ++ rest := by
      rw [gap, List.dropWhile_cons_of_pos (by decide), typed]
      exact gap_of_solid dense
    have shorter : chars.length ≤ fuel := by
      simp only [written, List.length_append] at room
      omega
    have isType := reads fuel rest shorter stops
    have whole : (written name optional chars legible form).chars ++ rest =
        (property name).toList ++ ((if optional then "?" else "").toList ++ (": ".toList ++ (chars ++ rest))) := by
      simp only [written, List.append_assoc]
    rw [whole, members?, isKey, written, Member.entry]
    · cases onLine : staysOnLine name.toList with
      | false => rfl
      | true =>
          rw [if_pos rfl, Bool.true_and]
          change (colon? _ >>= fun rest => type? fuel (gap rest) >>= fun (form, rest) => _) = _
          rw [colon?_mark]
          change (type? fuel (gap (' ' :: (chars ++ rest))) >>= fun (form, rest) => _) = _
          rw [space, isType]
          cases legible <;> rfl
    · intro behind same
      rw [opened, List.cons_append] at same
      exact noBrace (List.cons.inj same).1

/-! ## Types -/

/-- The types that are not looked into. -/
def plainTypes : List String :=
  ["string", "number", "boolean", "any", "any[]", "Record<string, any>", "Record<string, never>",
    "Record<string, string>"]

theorem reads_plain {text : String} (known : text ∈ plainTypes) : Reads text.toList true .plain := by
  intro fuel rest room stops
  have some : 0 < text.toList.length ∧ ∀ behind, text.toList ++ rest ≠ '\x7b' :: behind := by
    simp only [plainTypes, List.mem_cons, List.not_mem_nil, or_false] at known
    rcases known with rfl | rfl | rfl | rfl | rfl | rfl | rfl | rfl <;> exact ⟨by decide, nofun⟩
  obtain ⟨fuel, rfl⟩ := Nat.exists_eq_add_one_of_ne_zero (Nat.ne_of_gt (Nat.lt_of_lt_of_le some.1 room))
  have isPlain : plain? (text.toList ++ rest) = .some rest := by
    simp only [plainTypes, List.mem_cons, List.not_mem_nil, or_false] at known
    cases rest with
    | nil => rcases known with rfl | rfl | rfl | rfl | rfl | rfl | rfl | rfl <;> rfl
    | cons c more =>
        have stop := stops c rfl
        simp only [List.mem_cons, List.not_mem_nil, or_false] at stop
        rcases stop with rfl | rfl | rfl <;>
          rcases known with rfl | rfl | rfl | rfl | rfl | rfl | rfl | rfl <;> rfl
  rw [type?, isPlain]
  · rfl
  · exact some.2

theorem mem_plainTypes_parameterType (shape : Api.Shape) : parameterType shape ∈ plainTypes := by
  cases shape <;> decide

theorem more?_semicolon (fuel : Nat) (rest : List Char) :
    more? (fuel + 1) (';' :: rest) = members? fuel (gap rest) := rfl

theorem stops_cons {c : Char} (listed : c ∈ [';', ' ', '\n']) (rest : List Char) : Stops (c :: rest) := by
  intro d first
  cases first
  exact listed

/-- What is written of members on a line each. -/
def lineChars (members : List Member) : List Char :=
  members.flatMap fun m => '\n' :: ' ' :: ' ' :: (m.chars ++ [';'])

theorem members?_lines {members : List Member} (areRead : ∀ m ∈ members, m.IsRead)
    (room : (lineChars members).length + 2 ≤ fuel) :
    members? fuel (gap (lineChars members ++ '\n' :: '\x7d' :: rest)) =
      if members.all (·.legible) then some (members.map Member.entry, rest) else none := by
  induction members generalizing fuel with
  | nil =>
      obtain ⟨fuel, rfl⟩ := Nat.exists_eq_add_one_of_ne_zero (show fuel ≠ 0 by omega)
      rfl
  | cons m others ih =>
      obtain ⟨first, areRead⟩ := List.forall_mem_cons.1 areRead
      obtain ⟨c, more, opened, solid, -⟩ := first.opens
      have cons : lineChars (m :: others) = '\n' :: ' ' :: ' ' :: (m.chars ++ ';' :: lineChars others) := by
        simp only [lineChars, List.flatMap_cons, List.cons_append, List.append_assoc, List.nil_append]
      have whole : gap (lineChars (m :: others) ++ '\n' :: '\x7d' :: rest) =
          m.chars ++ ';' :: (lineChars others ++ '\n' :: '\x7d' :: rest) := by
        rw [cons, opened]
        simp only [List.cons_append, List.append_assoc]
        exact gap_of_solid solid
      rw [cons] at room
      simp only [List.length_cons, List.length_append] at room
      obtain ⟨fuel, rfl⟩ := Nat.exists_eq_add_of_le (show 2 ≤ fuel by omega)
      rw [Nat.add_comm 2 fuel, whole, first.reads (fuel + 1) _ (by omega) (stops_cons (by decide) _), more?_semicolon,
        ih areRead (by omega), List.all_cons]
      cases m.legible with
      | false => rfl
      | true => cases others.all (·.legible) <;> rfl

theorem reads_lines {members : List Member} (areRead : ∀ m ∈ members, m.IsRead) :
    Reads ('\x7b' :: (lineChars members ++ ['\n', '\x7d'])) (members.all (·.legible))
      (.object (members.map Member.entry)) := by
  intro fuel rest room _
  simp only [List.length_cons, List.length_append, List.length_nil] at room
  obtain ⟨fuel, rfl⟩ := Nat.exists_eq_add_one_of_ne_zero (show fuel ≠ 0 by omega)
  rw [List.cons_append, List.append_assoc, List.cons_append, List.singleton_append, type?,
    members?_lines areRead (by omega)]
  cases members.all (·.legible) <;> rfl

/-- What is written of members on one line. -/
def inlineChars (members : List Member) : List Char := "; ".toList.intercalate (members.map (·.chars))

theorem gap_inline {members : List Member} (some : members ≠ []) (areRead : ∀ m ∈ members, m.IsRead) :
    gap (' ' :: (inlineChars members ++ rest)) = inlineChars members ++ rest := by
  obtain ⟨first, others, rfl⟩ := List.exists_cons_of_ne_nil some
  obtain ⟨c, more, opened, solid, -⟩ := (areRead first List.mem_cons_self).opens
  obtain ⟨tail, starts⟩ : ∃ tail, inlineChars (first :: others) ++ rest = c :: tail := by
    rw [inlineChars, List.map_cons, opened]
    exact Text.exists_intercalate_append ..
  rw [starts, gap, List.dropWhile_cons_of_pos (by decide)]
  exact gap_of_solid solid

theorem members?_inline {members : List Member} (some : members ≠ []) (areRead : ∀ m ∈ members, m.IsRead)
    (room : (inlineChars members).length + 2 ≤ fuel) :
    members? fuel (inlineChars members ++ ' ' :: '\x7d' :: rest) =
      if members.all (·.legible) then .some (members.map Member.entry, rest) else none := by
  induction members generalizing fuel with
  | nil => exact absurd rfl some
  | cons m others ih =>
      obtain ⟨first, areRead⟩ := List.forall_mem_cons.1 areRead
      obtain ⟨fuel, rfl⟩ := Nat.exists_eq_add_of_le (show 2 ≤ fuel by omega)
      cases others with
      | nil =>
          have alone : inlineChars [m] = m.chars := List.intercalate_singleton
          have closed : more? (fuel + 1) (' ' :: '\x7d' :: rest) = .some ([], rest) := rfl
          rw [alone] at room ⊢
          rw [Nat.add_comm 2 fuel, first.reads (fuel + 1) _ (by omega) (stops_cons (by decide) _), closed,
            List.all_cons, List.all_nil, Bool.and_true]
          rfl
      | cons next others =>
          have cons : inlineChars (m :: next :: others) = m.chars ++ ';' :: ' ' :: inlineChars (next :: others) := by
            have semicolon : "; ".toList = [';', ' '] := rfl
            rw [inlineChars, List.map_cons, List.map_cons, List.intercalate_cons_cons, semicolon, List.append_assoc]
            rfl
          have all : (m :: next :: others).all (·.legible) = (m.legible && (next :: others).all (·.legible)) := rfl
          rw [cons] at room ⊢
          simp only [List.length_cons, List.length_append] at room
          -- The semicolon and the gap behind it are stepped over, and the other members are left to the induction.
          rw [Nat.add_comm 2 fuel, List.append_assoc, List.cons_append, List.cons_append,
            first.reads (fuel + 1) _ (by omega) (stops_cons (by decide) _), more?_semicolon,
            gap_inline (List.cons_ne_nil _ _) areRead, ih (List.cons_ne_nil _ _) areRead (by omega), all]
          cases m.legible with
          | false => rfl
          | true => cases (next :: others).all (·.legible) <;> rfl

theorem reads_inline {members : List Member} (some : members ≠ []) (areRead : ∀ m ∈ members, m.IsRead) :
    Reads ('\x7b' :: ' ' :: (inlineChars members ++ [' ', '\x7d'])) (members.all (·.legible))
      (.object (members.map Member.entry)) := by
  intro fuel rest room _
  simp only [List.length_cons, List.length_append, List.length_nil] at room
  obtain ⟨fuel, rfl⟩ := Nat.exists_eq_add_one_of_ne_zero (show fuel ≠ 0 by omega)
  rw [List.cons_append, List.cons_append, List.append_assoc, List.cons_append, List.singleton_append, type?,
    gap_inline some areRead, members?_inline some areRead (by omega)]
  cases members.all (·.legible) <;> rfl

end TypeForm

end QueryHooks.TypeScript
