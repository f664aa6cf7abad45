import QueryHooks.Api.Operation

/-!
Shapes of schemas. Only a text names a type: no other value is displayed as one of the names, so a schema has a known
shape exactly if its type is a name, or a list whose first entry that counts is one.
-/

namespace QueryHooks

open QueryHooks.Text (isAsciiLower)

/-- Whether a text has a character that is no small letter. -/
def HasSign (text : String) : Prop := ∃ c ∈ text.toList, isAsciiLower c = false

theorem HasSign.append_left {first : String} (signed : HasSign first) (second : String) :
    HasSign (first ++ second) := by
  obtain ⟨c, inside, sign⟩ := signed
  exact ⟨c, String.toList_append ▸ List.mem_append_left _ inside, sign⟩

theorem HasSign.append_right {second : String} (signed : HasSign second) (first : String) :
    HasSign (first ++ second) := by
  obtain ⟨c, inside, sign⟩ := signed
  exact ⟨c, String.toList_append ▸ List.mem_append_right _ inside, sign⟩

theorem hasSign_repr (n : Nat) : HasSign (Nat.repr n) := by
  obtain ⟨c, inside⟩ := List.exists_mem_of_ne_nil _ (Nat.toDigits_ne_nil (n := n) (b := 10))
  refine ⟨c, by rwa [Nat.toList_repr], ?_⟩
  have digit := Nat.isDigit_of_mem_toDigits (by decide) (by decide) inside
  simp only [Char.isDigit, Bool.and_eq_true, decide_eq_true_eq] at digit
  rw [isAsciiLower, Bool.and_eq_false_iff, decide_eq_false_iff_not, Char.le_def]
  exact .inl fun lower => absurd (UInt32.le_trans lower digit.2) (by decide)

theorem hasSign_date (d : Calendar.Date) : HasSign d.text :=
  have dash : HasSign "-" := ⟨'-', by decide, by decide⟩
  (((dash.append_right _).append_left _).append_left _).append_left _

namespace Value

def asText? : Value → Option String
  | .text s => some s
  | _ => none

theorem asText?_eq_none {v : Value} (other : ∀ s, v ≠ .text s) : v.asText? = none := by
  unfold asText?
  split
  · next s => exact absurd rfl (other s)
  · rfl

theorem hasSign_floatText (x : Decimal.Binary64) : HasSign (floatText x) ∨ floatText x ∈ ["nan", "inf"] := by
  cases x with
  | nan => exact .inr (by decide)
  | infinite negative =>
      cases negative with
      | true => exact .inl ⟨'-', by decide, by decide⟩
      | false => exact .inr (by decide)
  | finite negative mantissa exponent =>
      obtain ⟨c, inside, mark⟩ := numberLayout.exists_mem_write negative mantissa exponent
      have signs : ∀ c ∈ ['.', '-', '+'], isAsciiLower c = false := by decide
      exact .inl ⟨c, by rwa [floatText, String.toList_ofList], signs c mark⟩

theorem hasSign_encodeBytes (octets : List UInt8) : HasSign (String.ofList (Text.Quoted.encodeBytes octets)) := by
  have quote (chars : List Char) : isAsciiLower (Text.Quoted.quoteFor chars) = false := by
    unfold Text.Quoted.quoteFor
    split <;> decide
  refine ⟨_, ?_, quote (octets.map fun byte => Char.ofNat byte.toNat)⟩
  rw [String.toList_ofList]
  exact .tail _ (.head _)

/-- What is displayed of a value that is no text has a sign, or is a word for a number without digits. -/
theorem hasSign_display {v : Value} (other : ∀ s, v ≠ .text s) : HasSign v.display ∨ v.display ∈ ["nan", "inf"] := by
  have opens (opening : String) (signed : HasSign opening) (inner closing : String) :
      HasSign (opening ++ inner ++ closing) := (signed.append_left inner).append_left closing
  have bracket : HasSign "[" := ⟨'[', by decide, by decide⟩
  have brace : HasSign "\x7b" := ⟨'\x7b', by decide, by decide⟩
  have parenthesis : HasSign "(" := ⟨'(', by decide, by decide⟩
  cases v with
  | null => exact .inl ⟨'N', by decide, by decide⟩
  | bool b =>
      cases b with
      | true => exact .inl ⟨'T', by decide, by decide⟩
      | false => exact .inl ⟨'F', by decide, by decide⟩
  | int n =>
      cases n with
      | ofNat n => exact .inl (hasSign_repr n)
      | negSucc n => exact .inl (HasSign.append_right (hasSign_repr (n + 1)) "-")
  | float x => exact hasSign_floatText x
  | text s => exact absurd rfl (other s)
  | bytes octets => exact .inl (hasSign_encodeBytes octets)
  | date d => exact .inl (hasSign_date d)
  | timestamp t =>
      have dated := (hasSign_date t.date).append_left
      exact .inl ((((((((dated _).append_left _).append_left _).append_left _).append_left _).append_left _).append_left
        _).append_left _)
  -- Collections have a sign in their opening bracket, whatever their members are.
  | list items =>
      change HasSign (inspect (.list items)) ∨ _
      rw [inspect]
      exact .inl (opens "[" bracket _ _)
  | map entries =>
      change HasSign (inspect (.map entries)) ∨ _
      rw [inspect]
      exact .inl (opens "\x7b" brace _ _)
  | set members =>
      change HasSign (inspect (.set members)) ∨ _
      cases members with
      | nil =>
          rw [inspect]
          exact .inl ⟨'(', by decide, by decide⟩
      | cons first rest =>
          rw [inspect]
          · exact .inl (opens "\x7b" brace _ _)
          · exact List.cons_ne_nil first rest
  | pair first second =>
      change HasSign (inspect (.pair first second)) ∨ _
      rw [inspect]
      exact .inl (opens "(" parenthesis _ _)
  | again kind up =>
      cases kind with
      | list =>
          change HasSign (inspect (.again .list up)) ∨ _
          rw [inspect]
          exact .inl ⟨'[', by decide, by decide⟩
      | map =>
          change HasSign (inspect (.again .map up)) ∨ _
          rw [inspect]
          exact .inl ⟨'\x7b', by decide, by decide⟩

/-- Only a text can name a type: what is displayed of another value is no name of one. -/
theorem shape_display {v : Value} (other : ∀ s, v ≠ .text s) : Api.Shape.ofTypeName v.display = .unknown := by
  have named : ∀ name, Api.Shape.ofTypeName name ≠ .unknown →
      name.toList.all isAsciiLower = true ∧ name ∉ ["nan", "inf"] := by
    intro name known
    unfold Api.Shape.ofTypeName at known
    split at known
    all_goals first | exact absurd rfl known | decide
  refine Decidable.byContradiction fun known => ?_
  obtain ⟨lower, apart⟩ := named _ known
  rcases hasSign_display other with ⟨c, inside, sign⟩ | word
  · rw [List.all_eq_true.1 lower c inside] at sign
    cases sign
  · exact apart word

end Value

namespace Api

theorem Schema.lookup_toValue (key : String) (schema : Schema) :
    Value.lookup key (schema.map fun (name, v) => (.text name, v)) = schema.lookup key := by
  induction schema with
  | nil => rfl
  | cons entry rest ih =>
      obtain ⟨name, v⟩ := entry
      rw [List.map_cons, Value.lookup, ih, List.lookup_cons, Bool.beq_comm]
      cases key == name <;> rfl

/-- The name that a schema gives as its type: alone, or as the first in a list that counts. -/
def Schema.typeName? (schema : Schema) : Option String :=
  (schema.lookup "type").bind fun v =>
    match v with
    | .list types => (Shape.firstType types).asText?
    | v => v.asText?

theorem Shape.ofShown_eq_ok_iff {v : Value} {shape : Shape} (known : shape ≠ .unknown) :
    v.shown.map Shape.ofTypeName = .ok shape ↔ v.asText?.map Shape.ofTypeName = some shape := by
  by_cases named : ∃ name, v = .text name
  · obtain ⟨name, rfl⟩ := named
    exact ⟨fun same => congrArg some (Except.ok.inj same), fun same => congrArg Except.ok (Option.some.inj same)⟩
  · have other : ∀ s, v ≠ .text s := fun s isText => named ⟨s, isText⟩
    rw [Value.asText?_eq_none other]
    refine iff_of_false (fun shown => ?_) nofun
    unfold Value.shown at shown
    split at shown
    · cases shown
    · exact known ((Except.ok.inj shown).symm.trans (Value.shape_display other))

/-- A schema has a known shape exactly if the name of its type is one of that shape. -/
theorem Shape.ofSchema_eq_ok_iff {schema : Schema} {shape : Shape} (known : shape ≠ .unknown) :
    Shape.ofSchema schema.toValue = .ok shape ↔ schema.typeName?.map Shape.ofTypeName = some shape := by
  unfold Shape.ofSchema Schema.toValue Schema.typeName?
  simp only [Schema.lookup_toValue]
  cases schema.lookup "type" with
  | none => exact ofShown_eq_ok_iff (v := .null) known
  | some v =>
      cases v with
      | list types => exact ofShown_eq_ok_iff (v := firstType types) known
      | _ => exact ofShown_eq_ok_iff known

end Api

end QueryHooks
