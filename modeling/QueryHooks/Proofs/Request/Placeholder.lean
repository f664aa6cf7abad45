import QueryHooks.Proofs.Request.Path
import QueryHooks.Proofs.TypeScript.PathLiteral

/-!
What becomes of a declared name where it stands between braces in a path. It is replaced by its value, and by the member
that a hook reads, exactly if it is made of word characters; any other name stays as it is written.
-/

namespace QueryHooks.Request

open QueryHooks.Api (Operation Parameter)
open QueryHooks.PathTemplate (Piece fill ofText isHoleName pieces_occurrence)
open QueryHooks.TypeScript (Accessor inserted pathExpression substitution? isIdentifierName)

/-! ## The preview -/

variable {op : Operation} {values : Value} {parts parts' : List Piece}

def fillPath (op : Operation) (values : Value) (parts : List Piece) : Except Failure String := do
  let texts ← parts.mapM (fillPiece op values)
  return String.join texts

theorem path_eq_fillPath (some : (op.parametersIn .path).isEmpty = false) (path' : String) :
    path { op with path := path' } values = fillPath op values (ofText path') := by
  rw [path]
  exact if_neg (by rw [Bool.not_eq_true]; exact some)

theorem fillPath_append : fillPath op values (parts ++ parts') = do
    let start ← fillPath op values parts
    let rest ← fillPath op values parts'
    return start ++ rest := by
  simp only [fillPath, List.mapM_append, bind_assoc, pure_bind, String.join_append]

theorem fillPath_literals (chars : List Char) :
    fillPath op values (chars.map .literal) = .ok (String.ofList chars) := by
  induction chars with
  | nil => rfl
  | cons c rest ih =>
      have split : (c :: rest).map Piece.literal = [.literal c] ++ rest.map .literal := rfl
      have single : fillPath op values [.literal c] = .ok (String.singleton c) := by
        simp [fillPath, fillPiece, bind, Except.bind, pure, Except.pure]
      rw [split, fillPath_append, single, ih]
      refine congrArg Except.ok ?_
      rw [← String.toList_inj, String.toList_append]
      simp

theorem fillPath_hole (name : String) : fillPath op values [.hole name] = fillHole op values name := by
  rw [fillPath, List.mapM_cons, fillPiece]
  cases fillHole op values name with
  | error => rfl
  | ok text =>
      refine congrArg Except.ok ?_
      rw [← String.toList_inj, String.toList_join]
      exact List.append_nil _

/-- The value of a name that is given one is spelled in its place. -/
theorem fillHole_of_given {entries : List (Value × Value)} {name : String} {v : Value}
    (found : Value.lookup name entries = some v) (given : v ≠ .null) :
    fillHole op (.map entries) name = spelled v := by
  have isGiven : given? (.map entries) name = .ok (some v) := by
    rw [given?, found]
    split
    · next same => exact absurd (Option.some.inj same) given
    · rfl
  rw [fillHole, isGiven]
  rfl

/-- What is left empty is no required parameter if each of those is given a value. -/
theorem fillHole_of_not_given {entries : List (Value × Value)} {name : String}
    (given : ∀ p ∈ op.parametersIn .path, ∃ v, Value.lookup p.name entries = some v ∧ v ≠ .null)
    (none : ∀ v, Value.lookup name entries = some v → v = .null) :
    fillHole op (.map entries) name = .ok "" := by
  have isNone : given? (.map entries) name = .ok .none := by
    rw [given?]
    split
    · rfl
    · next notNull =>
        cases found : Value.lookup name entries with
        | none => rfl
        | some v => exact absurd (none v found ▸ found) notNull
  have optional : Api.isRequired (op.parametersIn .path) name = false := by
    rw [← Bool.not_eq_true, isRequired_iff]
    rintro ⟨before, p, after, whole, rfl, -⟩
    obtain ⟨v, found, notNull⟩ := given p (whole ▸ List.mem_append_right _ List.mem_cons_self)
    exact notNull (none v found)
  rw [fillHole, isNone, optional]
  rfl

/-- A path is filled if each declared name is given a value and all values can be spelled. -/
theorem exists_fillPath {entries : List (Value × Value)}
    (given : ∀ p ∈ op.parametersIn .path, ∃ v, Value.lookup p.name entries = some v ∧ v ≠ .null)
    (spellable : ∀ name v, Value.lookup name entries = some v → isSpellable maxNesting v = true) (parts : List Piece) :
    ∃ text, fillPath op (.map entries) parts = .ok text := by
  induction parts with
  | nil => exact ⟨"", rfl⟩
  | cons piece rest ih =>
      obtain ⟨last, isLast⟩ := ih
      obtain ⟨first, isFirst⟩ : ∃ text, fillPath op (.map entries) [piece] = .ok text := by
        cases piece with
        | literal c => exact ⟨_, fillPath_literals [c]⟩
        | hole name =>
            rw [fillPath_hole]
            by_cases empty : ∀ v, Value.lookup name entries = some v → v = .null
            · exact ⟨_, fillHole_of_not_given given empty⟩
            · obtain ⟨v, other⟩ := not_forall.1 empty
              obtain ⟨found, notNull⟩ := Classical.not_imp.1 other
              rw [fillHole_of_given found notNull, spelled, if_pos (spellable name v found)]
              exact ⟨_, rfl⟩
      have split : piece :: rest = [piece] ++ rest := rfl
      rw [split, fillPath_append, isFirst, isLast]
      exact ⟨_, rfl⟩

/-! ## The hook -/

/-- The text of a template between its marks. -/
def templateText (params : List Parameter) (accessor : Accessor) (path : String) : String :=
  String.ofList (fill (inserted params accessor) (ofText path))

theorem pathExpression_eq (path : String) {params : List Parameter} (some : params.isEmpty = false)
    (accessor : Accessor) :
    pathExpression path params accessor = "\x60" ++ templateText params accessor path ++ "\x60" := by
  rw [pathExpression, some, if_neg (by decide)]
  rfl

/-- Whether a text puts the member of a name into a template, and nothing more. -/
def ReadsMember (accessor : Accessor) (source : List Char) (name : String) : Prop :=
  ∃ rest, source = '$' :: '\x7b' :: rest ∧ substitution? accessor rest = some (name.toList, [])

/-- A name that is put in is read exactly if it is an identifier. -/
theorem readsMember_inserted_iff (params : List Parameter) (accessor : Accessor) {name : String}
    (isName : isHoleName name.toList = true) :
    ReadsMember accessor (inserted params accessor name) name ↔ isIdentifierName name.toList = true := by
  rw [isHoleName, Bool.and_eq_true, List.all_eq_true] at isName
  obtain ⟨ending, listed, whole⟩ := TypeScript.exists_inserted params accessor name
  have read : substitution? accessor ((accessor.read "").toList ++ (name.toList ++ (ending ++ []))) =
      if isIdentifierName name.toList then some (name.toList, []) else none :=
    TypeScript.substitution?_inserted isName.2 listed
  rw [List.append_nil] at read
  rw [ReadsMember, whole]
  constructor
  · rintro ⟨rest, same, isRead⟩
    obtain rfl := List.cons.inj (List.cons.inj same).2 |>.2
    rw [read] at isRead
    split at isRead
    · assumption
    · cases isRead
  · intro identifier
    rw [if_pos identifier] at read
    exact ⟨_, rfl, read⟩

/-! ## A declared name between braces -/

section

variable {before name after : String}

theorem ofText_occurrence (occurs : op.path = before ++ "\x7b" ++ name ++ "\x7d" ++ after)
    (plain : '\x7b' ∉ name.toList ∧ '\x7d' ∉ name.toList) :
    ofText op.path = ofText before ++
      ((if isHoleName name.toList then [.hole name]
        else ("\x7b" ++ name ++ "\x7d").toList.map .literal) ++ ofText after) := by
  have chars : op.path.toList = before.toList ++ '\x7b' :: (name.toList ++ '\x7d' :: after.toList) := by
    rw [occurs]
    simp
  have braces : ("\x7b" ++ name ++ "\x7d").toList = '\x7b' :: (name.toList ++ ['\x7d']) := by simp
  rw [ofText, chars, pieces_occurrence _ _ plain, String.ofList_toList, braces]
  rfl

theorem templateText_occurrence (params : List Parameter) (accessor : Accessor)
    (occurs : op.path = before ++ "\x7b" ++ name ++ "\x7d" ++ after)
    (plain : '\x7b' ∉ name.toList ∧ '\x7d' ∉ name.toList) :
    templateText params accessor op.path = templateText params accessor before ++
      (if isHoleName name.toList then TypeScript.interpolation params accessor name
        else "\x7b" ++ name ++ "\x7d") ++ templateText params accessor after := by
  have split (parts parts' : List Piece) : fill (inserted params accessor) (parts ++ parts') =
      fill (inserted params accessor) parts ++ fill (inserted params accessor) parts' := List.flatMap_append
  rw [templateText, ofText_occurrence occurs plain, split, split, ← String.toList_inj]
  cases isHoleName name.toList with
  | true =>
      have hole : fill (inserted params accessor) [.hole name] = inserted params accessor name := List.append_nil _
      rw [if_pos rfl, if_pos rfl, hole]
      simp [templateText, inserted]
  | false =>
      rw [if_neg (by decide), if_neg (by decide), TypeScript.fill_literals]
      simp [templateText]

theorem path_occurrence (declared : (op.parametersIn .path).isEmpty = false)
    (occurs : op.path = before ++ "\x7b" ++ name ++ "\x7d" ++ after)
    (plain : '\x7b' ∉ name.toList ∧ '\x7d' ∉ name.toList) :
    path op values = do
      let start ← path { op with path := before } values
      let text ← (if isHoleName name.toList then fillHole op values name else .ok ("\x7b" ++ name ++ "\x7d"))
      let rest ← path { op with path := after } values
      return start ++ text ++ rest := by
  have whole : path op values = fillPath op values (ofText op.path) := path_eq_fillPath declared op.path
  have middle : fillPath op values (if isHoleName name.toList then [.hole name]
      else ("\x7b" ++ name ++ "\x7d").toList.map .literal) =
        if isHoleName name.toList then fillHole op values name else .ok ("\x7b" ++ name ++ "\x7d") := by
    split
    · exact fillPath_hole name
    · rw [fillPath_literals, String.ofList_toList]
  rw [whole, ofText_occurrence occurs plain, fillPath_append, fillPath_append, middle,
    path_eq_fillPath declared, path_eq_fillPath declared]
  simp only [bind_assoc, pure_bind, String.append_assoc]

/-- What becomes of a name between braces, in the preview of a path and in the expression that a hook has for it. -/
structure IsFilled (op : Operation) (entries : List (Value × Value)) (before name after : String) (isQuery : Bool) :
    Prop where
  /-- A name of word characters is replaced by its spelled value, and any other stays. -/
  preview : ∃ v, Value.lookup name entries = some v ∧ v ≠ .null ∧ path op (.map entries) = do
    let start ← path { op with path := before } (.map entries)
    let text ← (if isHoleName name.toList then spelled v else .ok ("\x7b" ++ name ++ "\x7d"))
    let rest ← path { op with path := after } (.map entries)
    return start ++ text ++ rest
  shown : (∀ other v, Value.lookup other entries = some v → isSpellable maxNesting v = true) →
    ∃ text, path op (.map entries) = .ok text
  /-- So it is in the expression, where it is replaced by what reads it. -/
  expression : ∃ start rest,
    pathExpression op.path (op.parametersIn .path) (Render.Hook.accessor isQuery) =
      "\x60" ++ start ++ (if isHoleName name.toList
        then TypeScript.interpolation (op.parametersIn .path) (Render.Hook.accessor isQuery) name
        else "\x7b" ++ name ++ "\x7d") ++ rest ++ "\x60" ∧
    pathExpression before (op.parametersIn .path) (Render.Hook.accessor isQuery) = "\x60" ++ start ++ "\x60" ∧
    pathExpression after (op.parametersIn .path) (Render.Hook.accessor isQuery) = "\x60" ++ rest ++ "\x60"
  reads : isHoleName name.toList = true →
    (ReadsMember (Render.Hook.accessor isQuery)
      (TypeScript.interpolation (op.parametersIn .path) (Render.Hook.accessor isQuery) name).toList name ↔
        isIdentifierName name.toList = true)

/--
A declared name between braces is replaced by its value, and in a hook by what reads it, exactly if it is made of word
characters; it is then read exactly if it is an identifier. Any other declared name is left between its braces.
-/
theorem isFilled_of_declared {entries : List (Value × Value)} (isQuery : Bool)
    (occurs : op.path = before ++ "\x7b" ++ name ++ "\x7d" ++ after)
    (plain : '\x7b' ∉ name.toList ∧ '\x7d' ∉ name.toList)
    (declared : ∃ p ∈ op.parametersIn .path, p.name = name)
    (given : ∀ p ∈ op.parametersIn .path, ∃ v, Value.lookup p.name entries = some v ∧ v ≠ .null) :
    IsFilled op entries before name after isQuery := by
  obtain ⟨p, isDeclared, rfl⟩ := declared
  have some : (op.parametersIn .path).isEmpty = false := by
    rw [List.isEmpty_eq_false_iff]
    exact List.ne_nil_of_mem isDeclared
  obtain ⟨v, found, notNull⟩ := given p isDeclared
  refine ⟨⟨v, found, notNull, ?_⟩, fun spellable => ?_, ?_, readsMember_inserted_iff _ _⟩
  · rw [path_occurrence some occurs plain, fillHole_of_given found notNull]
  · rw [show path op (.map entries) = path { op with path := op.path } (.map entries) from rfl, path_eq_fillPath some]
    exact exists_fillPath given spellable _
  · refine ⟨_, _, ?_, pathExpression_eq before some _, pathExpression_eq after some _⟩
    rw [pathExpression_eq op.path some, templateText_occurrence _ _ occurs plain]
    simp only [String.append_assoc]

/-- A declared name with a hyphen, and one of letters. -/
private def visits : Operation where
  tag := "pets"
  id := "listVisits"
  method := .get
  path := "/pets/\x7bpet-id\x7d/visits/\x7bday\x7d"
  summary := none
  description := none
  parameters := [⟨"pet-id", .path, true, .string, none, none⟩, ⟨"day", .path, true, .string, none, none⟩]
  body := none
  responses := []

private def visitValues : List (Value × Value) := [(.text "pet-id", .text "7"), (.text "day", .text "may")]

theorem visits_path : IsFilled visits visitValues "/pets/" "pet-id" "/visits/\x7bday\x7d" true ∧
    IsFilled visits visitValues "/pets/\x7bpet-id\x7d/visits/" "day" "" true ∧
    path visits (.map visitValues) = .ok "/pets/\x7bpet-id\x7d/visits/may" := by
  have given : ∀ p ∈ visits.parametersIn .path, ∃ v, Value.lookup p.name visitValues = some v ∧ v ≠ .null := by
    intro p inside
    have all : visits.parametersIn .path = visits.parameters := rfl
    have known : p.name = "pet-id" ∨ p.name = "day" := by
      rw [all] at inside
      rcases List.mem_cons.1 inside with rfl | last
      · exact .inl rfl
      · exact .inr (congrArg Parameter.name (List.mem_singleton.1 last))
    rcases known with same | same
    · exact ⟨.text "7", by rw [same]; rfl, nofun⟩
    · exact ⟨.text "may", by rw [same]; rfl, nofun⟩
  have hyphened : IsFilled visits visitValues "/pets/" "pet-id" "/visits/\x7bday\x7d" true :=
    isFilled_of_declared true (by decide) (by decide) ⟨_, List.mem_cons_self, rfl⟩ given
  have lettered : IsFilled visits visitValues "/pets/\x7bpet-id\x7d/visits/" "day" "" true :=
    isFilled_of_declared true (by decide) (by decide) ⟨_, List.mem_cons_of_mem _ List.mem_cons_self, rfl⟩ given
  refine ⟨hyphened, lettered, ?_⟩
  have pieces : ofText visits.path = "/pets/\x7bpet-id\x7d/visits/".toList.map .literal ++ [.hole "day"] := by
    with_unfolding_all rfl
  have spells : spelled (.text "may") = .ok "may" := by
    rw [spelled, if_pos (by simp [isSpellable, Value.hasLongInteger]), spell_text]
  rw [show path visits (.map visitValues) = path { visits with path := visits.path } (.map visitValues) from rfl,
    path_eq_fillPath (by decide), pieces, fillPath_append, fillPath_literals, fillPath_hole,
    fillHole_of_given (v := .text "may") rfl nofun, spells]
  exact congrArg Except.ok (by decide)

end

end QueryHooks.Request
