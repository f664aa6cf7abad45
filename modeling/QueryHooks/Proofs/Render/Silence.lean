import QueryHooks.Proofs.TypeScript.KeyReferences
import QueryHooks.Render.Hooks

/-!
The texts that a description puts into a file of hooks: paths and the names of parameters. As long as
none of them names the object of query keys itself, no type and no path expression made of them does.
-/

namespace QueryHooks.TypeScript.KeyReferences

open QueryHooks.Api (Operation Parameter isRequired)
open QueryHooks.PathTemplate (Piece)

variable {c : Char} {chars rest : List Char} {name : String}

/-- Whether a text does not name the object of query keys. -/
def Silent (chars : List Char) : Prop := ¬ object <:+: chars

theorem silent_append (foreign : c ∉ object) :
    Silent (chars ++ c :: rest) ↔ Silent chars ∧ Silent rest := by
  have parts : object <:+: chars ++ c :: rest ↔ object <:+: chars ∨ object <:+: rest := by
    rw [List.infix_append_iff]
    constructor
    · rintro (before | after | ⟨first, second, whole, ends, begins⟩)
      · exact .inl before
      · refine .inr ((List.infix_cons_iff.1 after).resolve_left fun begins => foreign ?_)
        obtain ⟨d, others, cons⟩ : ∃ d others, object = d :: others := ⟨_, _, rfl⟩
        rw [cons, List.cons_prefix_cons] at begins
        rw [cons, begins.1]
        exact List.mem_cons_self
      · cases second with
        | nil =>
            rw [List.append_nil] at whole
            exact .inl (whole ▸ ends.isInfix)
        | cons d others =>
            refine absurd ?_ foreign
            rw [whole, (List.cons_prefix_cons.1 begins).1.symm]
            exact List.mem_append_right _ List.mem_cons_self
    · rintro (before | after)
      · exact .inl before
      · exact .inr (.inl (after.trans (List.suffix_cons c rest).isInfix))
  rw [Silent, parts, not_or]
  rfl

theorem silent_cons (foreign : c ∉ object) : Silent (c :: rest) ↔ Silent rest := by
  have empty : Silent [] := fun names => by
    have impossible := List.infix_nil.1 names
    cases impossible
  have whole : Silent ([] ++ c :: rest) ↔ Silent [] ∧ Silent rest := silent_append foreign
  rw [List.nil_append] at whole
  rw [whole, and_iff_right empty]

/-- Text without the first letter of the object can stand before silent text. -/
theorem silent_append_of_not_mem (free : 'q' ∉ chars) : Silent (chars ++ rest) ↔ Silent rest := by
  induction chars with
  | nil => rfl
  | cons d others ih =>
      obtain ⟨other, later⟩ := List.ne_and_not_mem_of_not_mem_cons free
      rw [List.cons_append, ← ih later]
      constructor
      · exact fun silent inside => silent (inside.trans (List.suffix_cons d _).isInfix)
      · intro silent inside
        refine silent ((List.infix_cons_iff.1 inside).resolve_left fun begins => other ?_)
        have first : object = 'q' :: "ueryKeys".toList := rfl
        rw [first, List.cons_prefix_cons] at begins
        exact begins.1

theorem silent_of_not_mem (free : 'K' ∉ chars) : Silent chars := by
  have inside : 'K' ∈ object := by decide
  exact fun names => free (names.subset inside)

/-! ## Path expressions -/

theorem exists_interpolation (params : List Parameter) (isQuery : Bool) (silent : Silent name.toList) :
    ∃ inner, Silent inner ∧
      (interpolation params (Render.Hook.accessor isQuery) name).toList = '$' :: '\x7b' :: (inner ++ ['\x7d']) := by
  have opening : "$\x7b".toList = ['$', '\x7b'] := rfl
  have access : "?.".toList = ['?', '.'] := rfl
  have fallback : " ?? \x27\x27\x7d".toList = ' ' :: "?? \x27\x27".toList ++ ['\x7d'] := rfl
  have closing : "\x7d".toList = ['\x7d'] := rfl
  obtain ⟨base, free, known⟩ : ∃ base : String, 'q' ∉ base.toList ∧ Render.Hook.accessor isQuery = ⟨base, true⟩ := by
    cases isQuery with
    | true => exact ⟨"params?.path", by decide, by decide⟩
    | false => exact ⟨"path", by decide, by decide⟩
  have read : Silent ((Render.Hook.accessor isQuery).read name).toList := by
    rw [known, Accessor.read, if_pos rfl, String.toList_append, String.toList_append, access,
      List.append_assoc, silent_append_of_not_mem free]
    exact (silent_cons (by decide)).2 ((silent_cons (by decide)).2 silent)
  rw [interpolation]
  cases isRequired params name with
  | true =>
      refine ⟨_, read, ?_⟩
      rw [if_pos rfl, String.toList_append, String.toList_append, opening, closing]
      rfl
  | false =>
      refine ⟨((Render.Hook.accessor isQuery).read name).toList ++ ' ' :: "?? \x27\x27".toList,
        (silent_append (by decide)).2 ⟨read, silent_of_not_mem (by decide)⟩, ?_⟩
      rw [if_neg (by decide), String.toList_append, String.toList_append, opening, fallback]
      simp only [List.append_assoc, List.cons_append, List.nil_append]

/-- A template in which names are replaced by what they are read from is as silent as the template. -/
theorem silent_fill (params : List Parameter) (isQuery : Bool) {before : List Char} {pieces : List Piece}
    (silent : Silent (before ++ PathTemplate.fill (fun name => '\x7b' :: name.toList ++ ['\x7d']) pieces)) :
    Silent (before ++ PathTemplate.fill
      (fun name => (interpolation params (Render.Hook.accessor isQuery) name).toList) pieces) := by
  -- The characters before the pieces are literal ones that no name between braces separates from them.
  induction pieces generalizing before with
  | nil => exact silent
  | cons piece others ih =>
      cases piece with
      | literal c =>
          rw [PathTemplate.fill_literal, List.append_cons] at silent ⊢
          exact ih silent
      | hole name =>
          rw [PathTemplate.fill_hole, List.cons_append, List.cons_append, silent_append (by decide),
            List.append_assoc, List.singleton_append, silent_append (by decide)] at silent
          obtain ⟨first, named, later⟩ := silent
          obtain ⟨inner, quiet, whole⟩ := exists_interpolation params isQuery named
          have after : Silent ([] ++ _) := ih later
          rw [PathTemplate.fill_hole, whole, List.cons_append, List.cons_append, silent_append (by decide),
            silent_cons (by decide), List.append_assoc, List.singleton_append, silent_append (by decide)]
          exact ⟨first, quiet, after⟩

theorem silent_pathExpression {path : String} (silent : Silent path.toList) (params : List Parameter)
    (isQuery : Bool) : Silent (pathExpression path params (Render.Hook.accessor isQuery)).toList := by
  have quote : "\x27".toList = ['\x27'] := rfl
  have tick : "\x60".toList = ['\x60'] := rfl
  rw [pathExpression]
  split
  · rw [String.toList_append, String.toList_append, quote, List.singleton_append, List.cons_append,
      silent_cons (by decide), silent_append (by decide)]
    exact ⟨silent, silent_of_not_mem (by decide)⟩
  · have filled : Silent ([] ++ PathTemplate.fill
        (fun name => (interpolation params (Render.Hook.accessor isQuery) name).toList)
        (PathTemplate.ofText path)) := by
      refine silent_fill params isQuery ?_
      rw [List.nil_append, PathTemplate.ofText, PathTemplate.fill_pieces]
      exact silent
    rw [String.toList_append, String.toList_append, tick, String.toList_ofList, List.singleton_append,
      List.cons_append, silent_cons (by decide), silent_append (by decide)]
    exact ⟨filled, silent_of_not_mem (by decide)⟩

/-! ## Types of parameters -/

theorem silent_escaped {before : List Char} (silent : Silent (before ++ chars)) :
    Silent (before ++ chars.flatMap escapeName) := by
  induction chars generalizing before with
  | nil => exact silent
  | cons c others ih =>
      have doubled (mark : Char) (foreign : mark ∉ object) (silent : Silent (before ++ mark :: others)) :
          Silent (before ++ '\\' :: mark :: others.flatMap escapeName) := by
        rw [silent_append foreign] at silent
        have later : Silent ([] ++ others.flatMap escapeName) := ih silent.2
        rw [silent_append (by decide), silent_cons foreign]
        exact ⟨silent.1, later⟩
      rw [List.flatMap_cons]
      unfold escapeName
      split
      · exact doubled '\\' (by decide) silent
      · exact doubled '\x27' (by decide) silent
      · rw [List.append_cons] at silent
        rw [List.singleton_append, List.append_cons]
        exact ih silent

theorem silent_property (silent : Silent name.toList) : Silent (property name).toList := by
  rw [property, String.toList_ofList, propertyChars]
  split
  · exact silent
  · have inner : Silent ([] ++ name.toList.flatMap escapeName) := silent_escaped silent
    rw [List.cons_append, silent_cons (by decide), silent_append (by decide)]
    exact ⟨inner, silent_of_not_mem (by decide)⟩

theorem silent_member {p : Parameter} (silent : Silent p.name.toList) (optional : Bool) :
    Silent (member optional p).toList := by
  have type : Silent (' ' :: (parameterType p.shape).toList) := by
    refine silent_of_not_mem ?_
    cases p.shape <;> decide
  have colon : ": ".toList = [':', ' '] := rfl
  have mark : "?".toList = ['?'] := rfl
  have named := silent_property silent
  rw [member, String.toList_append, String.toList_append, String.toList_append, colon]
  cases optional && !p.required with
  | true =>
      rw [if_pos rfl, mark]
      simp only [List.append_assoc, List.cons_append, List.nil_append]
      rw [silent_append (by decide), silent_cons (by decide)]
      exact ⟨named, type⟩
  | false =>
      rw [if_neg (by decide)]
      simp only [List.append_assoc, List.cons_append, List.nil_append, String.toList_empty]
      rw [silent_append (by decide)]
      exact ⟨named, type⟩

theorem silent_intercalate {between : List Char} (foreign : c ∉ object) (free : 'q' ∉ between)
    {pieces : List (List Char)} (silent : ∀ piece ∈ pieces, Silent piece) :
    Silent ((c :: between).intercalate pieces) := by
  induction pieces with
  | nil => exact silent_of_not_mem List.not_mem_nil
  | cons first others ih =>
      have here := silent first List.mem_cons_self
      have later := ih fun piece inside => silent piece (List.mem_cons_of_mem _ inside)
      cases others with
      | nil =>
          rw [List.intercalate_singleton]
          exact here
      | cons second more =>
          rw [List.intercalate_cons_cons, List.append_assoc, List.cons_append, silent_append foreign,
            silent_append_of_not_mem free]
          exact ⟨here, later⟩

theorem silent_group {params : List Parameter} (silent : ∀ p ∈ params, Silent p.name.toList) (optional : Bool)
    {otherwise : String} (free : 'K' ∉ otherwise.toList) : Silent (group optional params otherwise).toList := by
  have between : "; ".toList = [';', ' '] := rfl
  have opening : "\x7b ".toList = ['\x7b', ' '] := rfl
  have closing : " \x7d".toList = [' ', '\x7d'] := rfl
  rw [group]
  split
  · exact silent_of_not_mem free
  · rw [String.toList_append, String.toList_append, String.toList_intercalate, between, opening, closing]
    simp only [List.cons_append, List.nil_append]
    rw [silent_cons (by decide), silent_cons (by decide), silent_append (by decide)]
    refine ⟨silent_intercalate (by decide) (by decide) ?_, silent_of_not_mem (by decide)⟩
    intro piece inside
    obtain ⟨text, within, rfl⟩ := List.mem_map.1 inside
    obtain ⟨p, known, rfl⟩ := List.mem_map.1 within
    exact silent_member (silent p known) optional

/-- Whether the texts that an operation gives to its hook do not name the object of query keys. -/
structure IsSilent (op : Operation) : Prop where
  path : Silent op.path.toList
  parameters : ∀ p ∈ op.parameters, Silent p.name.toList

theorem silent_paramsType {op : Operation} (silent : IsSilent op) {body : Option String}
    (free : ∀ text ∈ body, 'K' ∉ text.toList) : Silent (paramsType op body).toList := by
  have named (location : Api.Location) : ∀ p ∈ op.parametersIn location, Silent p.name.toList :=
    fun p inside => silent.parameters p (List.mem_filter.1 inside).1
  have newline : "\n".toList = ['\n'] := rfl
  have opening : "\x7b\n".toList = ['\x7b', '\n'] := rfl
  have closing : "\n\x7d".toList = ['\n', '\x7d'] := rfl
  have line (before : List Char) {start text : String} (begins : Silent before)
      (ends : start.toList = before ++ [' ']) (quiet : Silent text.toList) :
      Silent (start ++ text ++ ";").toList := by
    have last : ";".toList = [';'] := rfl
    rw [String.toList_append, String.toList_append, last, ends, List.append_assoc, List.append_assoc,
      List.singleton_append, silent_append (by decide), silent_append (by decide)]
    exact ⟨begins, quiet, silent_of_not_mem List.not_mem_nil⟩
  rw [paramsType, String.toList_append, String.toList_append, String.toList_intercalate, newline, opening, closing]
  simp only [List.cons_append, List.nil_append]
  rw [silent_cons (by decide), silent_cons (by decide), silent_append (by decide)]
  refine ⟨silent_intercalate (by decide) (by decide) ?_, silent_of_not_mem (by decide)⟩
  intro piece inside
  obtain ⟨text, within, rfl⟩ := List.mem_map.1 inside
  simp only [List.mem_cons, List.mem_map, Option.mem_toList] at within
  -- Only the names of parameters and the type of the body are texts of the description.
  rcases within with rfl | rfl | rfl | ⟨bodyType, known, rfl⟩
  · exact line "  path?:".toList (silent_of_not_mem (by decide)) (by decide)
      (silent_group (named .path) false (by decide))
  · exact line "  query?:".toList (silent_of_not_mem (by decide)) (by decide)
      (silent_group (named .query) true (by decide))
  · exact line "  headers?:".toList (silent_of_not_mem (by decide)) (by decide)
      (silent_group (named .header) true (by decide))
  · exact line "  body?:".toList (silent_of_not_mem (by decide)) (by decide)
      (silent_of_not_mem (free bodyType known))

end QueryHooks.TypeScript.KeyReferences
