import QueryHooks.Proofs.TypeScript.PathExpression
import QueryHooks.Request.Preview

/-!
The path that a preview shows is the one that the generated hook computes: both put the same text in
the place of each name, and neither reads that text again.
-/

namespace QueryHooks.Request

open QueryHooks.Api (Operation Parameter isRequired)
open QueryHooks.PathTemplate (Piece)
open QueryHooks.TypeScript (Datum IsIdentifier IsPlain evaluate? hookScope pathExpression)

/-- What the command line can give to a name: a text, or several. -/
inductive Given
  | one (text : String)
  | many (texts : List String)
deriving DecidableEq, Repr

namespace Given

def toValue : Given → Value
  | .one text => .text text
  | .many texts => .list (texts.map .text)

/-- The same value as an expression meets it. -/
def toDatum : Given → Datum
  | .one text => .text text.toList
  | .many texts => .array (texts.map String.toList)

def chars : Given → List Char
  | .one text => text.toList
  | .many texts => [','].intercalate (texts.map String.toList)

theorem spellItems_texts (texts : List String) : spellItems (texts.map .text) = texts := by
  induction texts with
  | nil => simp [spellItems]
  | cons text rest ih => simp [spellItems, spellItem, spell_text, ih]

theorem spell_toValue (g : Given) : spell g.toValue = String.ofList g.chars := by
  cases g with
  | one text => rw [toValue, spell_text, chars, String.ofList_toList]
  | many texts =>
      have joined : (",".intercalate texts).toList = (many texts).chars := String.toList_intercalate
      rw [← joined, String.ofList_toList, toValue, spell, spellItems_texts]

theorem areSpellable_texts (levels : Nat) (texts : List String) : areSpellable levels (texts.map .text) = true := by
  induction texts with
  | nil => simp [areSpellable]
  | cons text rest ih => simp [areSpellable, isSpellable, Value.hasLongInteger, ih]

theorem spelled_toValue (g : Given) : spelled g.toValue = .ok (String.ofList g.chars) := by
  have spellable : isSpellable maxNesting g.toValue = true := by
    cases g with
    | one text => simp [toValue, isSpellable, Value.hasLongInteger]
    | many texts => simp [toValue, isSpellable, areSpellable_texts, maxNesting]
  rw [spelled, if_pos spellable, spell_toValue]

theorem display_toDatum (g : Given) : g.toDatum.display = g.chars := by
  cases g <;> rfl

theorem orEmpty_toDatum (g : Given) : g.toDatum.orEmpty = g.toDatum := by
  cases g <;> rfl

end Given

abbrev PathValues := List (String × Given)

namespace PathValues

def toValue (values : PathValues) : Value := .record (values.map fun (name, g) => (name, g.toValue))

/-- What reading a member gives in an object that holds the values. -/
def read (values : PathValues) (name : String) : Datum := ((values.lookup name).map Given.toDatum).getD .undefined

/-- The text in the place of a name. -/
def chars (values : PathValues) (name : String) : List Char := ((values.lookup name).map Given.chars).getD []

theorem lookup_toValue (values : PathValues) (name : String) :
    given? values.toValue name = .ok ((values.lookup name).map Given.toValue) := by
  have found : values.toValue.get? name = (values.lookup name).map Given.toValue := by
    rw [toValue, Value.record, Value.get?]
    induction values with
    | nil => rfl
    | cons entry rest ih =>
        rw [List.map_cons, List.map_cons, Value.lookup, List.lookup_cons, BEq.comm, ih]
        cases name == entry.1 <;> rfl
  rw [toValue, Value.record, given?, show Value.lookup name _ = _ from found]
  cases values.lookup name with
  | none => rfl
  | some g => cases g <;> rfl

end PathValues

/-- Whether the last declaration of a name among parameters asks for a value. -/
def IsLastRequired (params : List Parameter) (name : String) : Prop :=
  ∃ before p after, params = before ++ p :: after ∧ p.name = name ∧ p.required = true ∧
    ∀ q ∈ after, q.name ≠ name

theorem isRequired_iff (params : List Parameter) (name : String) :
    isRequired params name = true ↔ IsLastRequired params name := by
  rw [isRequired, Option.any_eq_true]
  constructor
  · rintro ⟨p, found, required⟩
    obtain ⟨same, after, before, whole, none⟩ := List.find?_eq_some_iff_append.1 found
    refine ⟨before.reverse, p, after.reverse, ?_, beq_iff_eq.1 same, required, ?_⟩
    · rw [← List.reverse_reverse params, whole]
      simp
    · intro q inside
      simpa using none q (List.mem_reverse.1 inside)
  · rintro ⟨before, p, after, whole, same, required, none⟩
    refine ⟨p, List.find?_eq_some_iff_append.2 ⟨beq_iff_eq.2 same, after.reverse, before.reverse, ?_, ?_⟩,
      required⟩
    · rw [whole]
      simp
    · intro q inside
      simpa using none q (List.mem_reverse.1 inside)

/-- Whether a path names a parameter that asks for a value and has none. -/
def IsMissing (op : Operation) (values : PathValues) (pieces : List Piece) : Prop :=
  ∃ name, .hole name ∈ pieces ∧ IsLastRequired (op.parametersIn .path) name ∧ values.lookup name = none

/-- The path with the text of a value in the place of each name, and with its names where no parameter is declared. -/
def filled (op : Operation) (values : PathValues) : String :=
  if (op.parametersIn .path).isEmpty then op.path
  else String.ofList (PathTemplate.fill values.chars (PathTemplate.ofText op.path))

variable {op : Operation} {values : PathValues} {name : String}

theorem fillHole_of_missing (required : IsLastRequired (op.parametersIn .path) name)
    (none : values.lookup name = none) :
    fillHole op values.toValue name = .error (.usage (.missingPathValue name op.id)) := by
  rw [fillHole, PathValues.lookup_toValue, none, (isRequired_iff _ _).2 required]
  rfl

theorem isRequired_of_not_missing {params : List Parameter}
    (given : ¬ (IsLastRequired params name ∧ values.lookup name = none)) (none : values.lookup name = none) :
    isRequired params name = false := by
  rw [← Bool.not_eq_true, isRequired_iff]
  exact fun required => given ⟨required, none⟩

theorem fillHole_of_not_missing
    (given : ¬ (IsLastRequired (op.parametersIn .path) name ∧ values.lookup name = none)) :
    fillHole op values.toValue name = .ok (String.ofList (values.chars name)) := by
  rw [fillHole, PathValues.lookup_toValue, PathValues.chars]
  cases found : values.lookup name with
  | some g => exact g.spelled_toValue
  | none =>
      rw [isRequired_of_not_missing given found]
      rfl

theorem fillPiece_of_not_missing {piece : Piece} {rest : List Piece}
    (given : ¬ IsMissing op values (piece :: rest)) :
    fillPiece op values.toValue piece = .ok (String.ofList (PathTemplate.fill values.chars [piece])) := by
  cases piece with
  | literal c => rfl
  | hole name =>
      rw [PathTemplate.fill_hole, PathTemplate.fill, List.flatMap_nil, List.append_nil]
      refine fillHole_of_not_missing ?_
      rintro ⟨required, none⟩
      exact given ⟨name, List.mem_cons_self, required, none⟩

theorem IsMissing.cons {piece : Piece} {pieces : List Piece} (missing : IsMissing op values pieces) :
    IsMissing op values (piece :: pieces) := by
  obtain ⟨name, inside, required, none⟩ := missing
  exact ⟨name, List.mem_cons_of_mem _ inside, required, none⟩

theorem fillPieces_of_not_missing {pieces : List Piece} (given : ¬ IsMissing op values pieces) :
    pieces.mapM (fillPiece op values.toValue) =
      .ok (pieces.map fun piece => String.ofList (PathTemplate.fill values.chars [piece])) := by
  induction pieces with
  | nil => rfl
  | cons piece rest ih =>
      rw [List.mapM_cons, fillPiece_of_not_missing given, ih fun missing => given missing.cons]
      rfl

/-- The first name without a value that it needs is the one that the failure tells. -/
theorem fillPieces_of_missing {pieces : List Piece} (missing : IsMissing op values pieces) :
    ∃ name, pieces.mapM (fillPiece op values.toValue) =
      .error (.usage (.missingPathValue name op.id)) := by
  induction pieces with
  | nil =>
      obtain ⟨name, inside, _⟩ := missing
      cases inside
  | cons piece rest ih =>
      rw [List.mapM_cons]
      by_cases here : IsMissing op values [piece]
      · obtain ⟨name, inside, required, none⟩ := here
        rw [← List.mem_singleton.1 inside, fillPiece, fillHole_of_missing required none]
        exact ⟨name, rfl⟩
      · have later : IsMissing op values rest := by
          obtain ⟨name, inside, required, none⟩ := missing
          rcases List.mem_cons.1 inside with same | later
          · exact absurd ⟨name, List.mem_singleton.2 same, required, none⟩ here
          · exact ⟨name, later, required, none⟩
        obtain ⟨name, failed⟩ := ih later
        rw [fillPiece_of_not_missing here, failed]
        exact ⟨name, rfl⟩

theorem join_fill (pieces : List Piece) :
    String.join (pieces.map fun piece => String.ofList (PathTemplate.fill values.chars [piece])) =
      String.ofList (PathTemplate.fill values.chars pieces) := by
  rw [← String.toList_inj, String.toList_join, List.flatMap_map, String.toList_ofList]
  simp only [String.toList_ofList, PathTemplate.fill, List.flatMap_singleton]

theorem shown_of_not_missing {object : String → Datum}
    (given : ¬ (IsLastRequired (op.parametersIn .path) name ∧ values.lookup name = none))
    (holds : object name = values.read name) :
    TypeScript.shown object (op.parametersIn .path) name = values.chars name := by
  rw [TypeScript.shown, holds, PathValues.read, PathValues.chars]
  cases found : values.lookup name with
  | some g =>
      simp only [Option.map_some, Option.getD_some, Given.orEmpty_toDatum, ite_self, Given.display_toDatum]
  | none =>
      rw [isRequired_of_not_missing given found]
      rfl

/-- A parameter declared twice, and one that is not declared. -/
private def photos : Operation where
  tag := "pets"
  id := "listPhotos"
  method := .get
  path := "/pets/{petId}/photos/{size}"
  summary := none
  description := none
  parameters :=
    [⟨"petId", .path, false, .string, none, none⟩, ⟨"petId", .path, true, .string, none, none⟩]
  body := none
  responses := []

private def photoValues : PathValues := [("petId", .one "{size}"), ("size", .many ["s", "m"])]

end QueryHooks.Request
