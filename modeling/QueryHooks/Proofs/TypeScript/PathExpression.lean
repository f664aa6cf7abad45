import QueryHooks.Proofs.Text.Pieces
import QueryHooks.Proofs.TypeScript.Expression

/-!
What the path expressions of hooks evaluate to. A path that holds no character with a meaning of its
own inside literals is read back piece by piece, and each name between braces as access to the member
of that name.
-/

namespace QueryHooks.TypeScript

open QueryHooks.Api (Parameter isRequired)
open QueryHooks.PathTemplate (Piece)
open QueryHooks.Render (Hook.accessor)

/-- Characters that mean themselves in every literal. -/
def IsPlain (c : Char) : Prop := c ∉ ['\x27', '\x60', '\\', '$', '\n', '\r']

instance (c : Char) : Decidable (IsPlain c) := inferInstanceAs (Decidable (_ ∉ _))

variable {name : String} {isQuery : Bool} {chars rest : List Char}

theorem not_mem_of_isIdentifier {c : Char} (identifier : IsIdentifier chars)
    (other : isIdentifierPart c = false) : c ∉ chars := by
  intro inside
  rw [identifier.2.1 c inside] at other
  cases other

theorem name?_append (identifier : IsIdentifier chars)
    (ends : ∀ c ∈ rest.head?, isIdentifierPart c = false) :
    name? (chars ++ rest) = some (String.ofList chars, rest) := by
  have none : rest.takeWhile isIdentifierPart = [] := by
    cases rest with
    | nil => rfl
    | cons c rest => exact List.takeWhile_cons_of_neg (by simp [ends c rfl])
  have all : rest.dropWhile isIdentifierPart = rest := by
    cases rest with
    | nil => rfl
    | cons c rest => exact List.dropWhile_cons_of_neg (by simp [ends c rfl])
  unfold name?
  rw [List.takeWhile_append_of_pos identifier.2.1, List.dropWhile_append_of_pos identifier.2.1,
    none, all, List.append_nil, if_pos identifier]

theorem links?_optional (identifier : IsIdentifier chars)
    (ends : ∀ c ∈ rest.head?, isIdentifierPart c = false) :
    links? ('?' :: '.' :: (chars ++ rest)) =
      (links? rest).map fun (links, last) => (⟨true, String.ofList chars⟩ :: links, last) := by
  rw [links?]
  split
  · next found =>
      rw [name?_append identifier ends] at found
      cases found
      rfl
  · next found =>
      rw [name?_append identifier ends] at found
      cases found

/-- What a template reads for a name between braces. -/
def hookAccess (isQuery : Bool) (name : String) (required : Bool) : Access where
  root := if isQuery then "params" else "path"
  links := (if isQuery then [⟨true, "path"⟩] else []) ++ [⟨true, name⟩]
  fallback := if required then none else some []

/-- The text after a member access: nothing for a required value, and the empty literal for others. -/
private def ending (required : Bool) : List Char := if required then [] else " ?? \x27\x27".toList

private theorem links?_ending (required : Bool) :
    links? (ending required) = some ([], ending required) := by
  cases required with
  | true => rw [ending, if_pos rfl, links?] <;> simp
  | false => rw [ending, if_neg (by decide), links?] <;> simp

private theorem fallback?_ending (required : Bool) :
    fallback? (ending required) = some (if required then none else some []) := by
  cases required <;> rfl

private theorem ends_ending (required : Bool) :
    ∀ c ∈ (ending required).head?, isIdentifierPart c = false := by
  cases required <;> decide

private theorem read_query (name : String) :
    ((Hook.accessor true).read name).toList =
      "params".toList ++ '?' :: '.' :: ("path".toList ++ '?' :: '.' :: name.toList) := by
  have known : Hook.accessor true = ⟨"params?.path", true⟩ := by decide
  rw [known, Accessor.read, if_pos rfl, String.toList_append, String.toList_append]
  rfl

private theorem read_mutation (name : String) :
    ((Hook.accessor false).read name).toList = "path".toList ++ '?' :: '.' :: name.toList := by
  have known : Hook.accessor false = ⟨"path", true⟩ := by decide
  rw [known, Accessor.read, if_pos rfl, String.toList_append, String.toList_append]
  rfl

theorem read?_access (identifier : IsIdentifier name.toList) (isQuery required : Bool) :
    Access.read? (((Hook.accessor isQuery).read name).toList ++ ending required) =
      some (hookAccess isQuery name required) := by
  have stops (rest : List Char) : ∀ d ∈ ('?' :: rest).head?, isIdentifierPart d = false := by
    intro d same
    cases same
    decide
  have last : links? ('?' :: '.' :: (name.toList ++ ending required)) =
      some ([⟨true, name⟩], ending required) := by
    rw [links?_optional identifier (ends_ending required), links?_ending, Option.map_some,
      String.ofList_toList]
  cases isQuery with
  | true =>
      rw [read_query, List.append_assoc, List.cons_append, List.cons_append, List.append_assoc,
        List.cons_append, List.cons_append, Access.read?, name?_append (by decide) (stops _)]
      simp only [bind, Option.bind]
      rw [links?_optional (by decide) (stops _), last]
      simp only [Option.map_some, fallback?_ending]
      rfl
  | false =>
      rw [read_mutation, List.append_assoc, List.cons_append, List.cons_append, Access.read?,
        name?_append (by decide) (stops _)]
      simp only [bind, Option.bind]
      rw [last]
      simp only [fallback?_ending]
      rfl

theorem templateParts?_cons {c : Char} (plain : IsPlain c) :
    templateParts? (c :: rest) = (templateParts? rest).map (.char c :: ·) := by
  have others : c ≠ '\x27' ∧ c ≠ '\x60' ∧ c ≠ '\\' ∧ c ≠ '$' ∧ c ≠ '\n' ∧ c ≠ '\r' := by
    simpa [IsPlain] using plain
  obtain ⟨_, noMark, noEscape, noDollar, _, noReturn⟩ := others
  rw [templateParts?]
  · simp [noMark, noEscape, noReturn]
  · intro rest starts
    exact absurd starts noDollar

theorem templateParts?_value {access : Access} (inside : '\x7d' ∉ chars)
    (isAccess : Access.read? chars = some access) :
    templateParts? ('$' :: '\x7b' :: (chars ++ '\x7d' :: rest)) =
      (templateParts? rest).map (.value access :: ·) := by
  rw [templateParts?]
  split
  · next before after found =>
      rw [Text.cutAt_append inside] at found
      cases found
      rw [isAccess]
      cases templateParts? rest <;> rfl
  · next found =>
      rw [Text.cutAt_append inside] at found
      cases found

theorem interpolation_toList (params : List Parameter) (isQuery : Bool) (name : String) :
    (interpolation params (Hook.accessor isQuery) name).toList =
      '$' :: '\x7b' :: (((Hook.accessor isQuery).read name).toList ++ (ending (isRequired params name) ++
        ['\x7d'])) := by
  have opening : "$\x7b".toList = ['$', '\x7b'] := rfl
  have fallback : " ?? \x27\x27\x7d".toList = " ?? \x27\x27".toList ++ ['\x7d'] := rfl
  have closing : "\x7d".toList = ['\x7d'] := rfl
  rw [interpolation]
  cases isRequired params name with
  | true =>
      rw [if_pos rfl, String.toList_append, String.toList_append, opening, closing, ending, if_pos rfl]
      simp only [List.cons_append, List.nil_append]
  | false =>
      rw [if_neg (by decide), String.toList_append, String.toList_append, opening, fallback, ending,
        if_neg (by decide)]
      simp only [List.cons_append, List.nil_append]

theorem not_mem_access (identifier : IsIdentifier name.toList) (isQuery required : Bool) :
    '\x7d' ∉ ((Hook.accessor isQuery).read name).toList ++ ending required := by
  have free : '\x7d' ∉ name.toList := not_mem_of_isIdentifier identifier (by decide)
  have first : '\x7d' ∉ ((Hook.accessor isQuery).read name).toList := by
    cases isQuery with
    | true => simpa [read_query] using free
    | false => simpa [read_mutation] using free
  have last : '\x7d' ∉ ending required := by cases required <;> decide
  simp [first, last]

/-- A piece of a path as a template of a hook reads it. -/
def templatePart (isQuery : Bool) (params : List Parameter) : Piece → TemplatePart
  | .literal c => .char c
  | .hole name => .value (hookAccess isQuery name (isRequired params name))

theorem templateParts?_fill {params : List Parameter} {pieces : List Piece}
    (plain : ∀ c, .literal c ∈ pieces → IsPlain c)
    (identifiers : ∀ name, .hole name ∈ pieces → IsIdentifier name.toList) :
    templateParts? (PathTemplate.fill
        (fun name => (interpolation params (Hook.accessor isQuery) name).toList) pieces ++ ['\x60']) =
      some (pieces.map (templatePart isQuery params)) := by
  induction pieces with
  | nil => rw [PathTemplate.fill, List.flatMap_nil, List.nil_append, templateParts?] <;> simp
  | cons piece rest ih =>
      have later := ih (fun c inside => plain c (List.mem_cons_of_mem _ inside))
        (fun name inside => identifiers name (List.mem_cons_of_mem _ inside))
      cases piece with
      | literal c =>
          rw [PathTemplate.fill_literal, List.cons_append,
            templateParts?_cons (plain c List.mem_cons_self), later]
          rfl
      | hole name =>
          have identifier := identifiers name List.mem_cons_self
          have access := read?_access identifier isQuery (isRequired params name)
          have free := not_mem_access identifier isQuery (isRequired params name)
          rw [PathTemplate.fill_hole, interpolation_toList, List.map_cons, templatePart]
          simp only [List.cons_append, List.append_assoc, List.nil_append]
          rw [← List.append_assoc, templateParts?_value free access, later, Option.map_some]

theorem quoted?_append (plain : ∀ c ∈ chars, IsPlain c) : quoted? (chars ++ '\x27' :: rest) =
    some (chars, rest) := by
  induction chars with
  | nil => rfl
  | cons c chars ih =>
      have others : c ≠ '\x27' ∧ c ≠ '\x60' ∧ c ≠ '\\' ∧ c ≠ '$' ∧ c ≠ '\n' ∧ c ≠ '\r' := by
        simpa [IsPlain] using plain c List.mem_cons_self
      obtain ⟨noQuote, _, noEscape, _, noBreak, noReturn⟩ := others
      rw [List.cons_append, quoted?, ih fun d inside => plain d (List.mem_cons_of_mem c inside)]
      · simp [noEscape, noBreak, noReturn]
      · exact noQuote

/-- A value, or the empty text in place of none. -/
def Datum.orEmpty : Datum → Datum
  | .undefined => .text []
  | d => d

/-- The text of a value in a path. A required one that is undefined shows as such. -/
def shown (values : String → Datum) (params : List Parameter) (name : String) : List Char :=
  (if isRequired params name then values name else (values name).orEmpty).display

theorem value?_hookAccess (values : String → Datum) (isQuery required : Bool) (name : String) :
    (hookAccess isQuery name required).value? (hookScope isQuery values) =
      some (if required then values name else (values name).orEmpty) := by
  have found : (hookScope isQuery values (hookAccess isQuery name required).root).bind
      (follow · (hookAccess isQuery name required).links) = some (values name) := by
    cases isQuery <;> simp [hookScope, hookAccess, follow]
  rw [Access.value?]
  cases known : hookScope isQuery values (hookAccess isQuery name required).root with
  | none => simp [known] at found
  | some root =>
      rw [known, Option.bind_some] at found
      simp only [bind, Option.bind, found]
      cases required <;> cases values name <;> rfl

theorem display?_templatePart (values : String → Datum) (params : List Parameter) (piece : Piece) :
    (templatePart isQuery params piece).display? (hookScope isQuery values) =
      some (PathTemplate.fill (shown values params) [piece]) := by
  cases piece with
  | literal c => rfl
  | hole name =>
      rw [templatePart, TemplatePart.display?, value?_hookAccess, Option.map_some,
        PathTemplate.fill_hole, PathTemplate.fill, List.flatMap_nil, List.append_nil]
      rfl

theorem text?_template (values : String → Datum) (params : List Parameter) (pieces : List Piece) :
    (Expression.template (pieces.map (templatePart isQuery params))).text? (hookScope isQuery values) =
      some (String.ofList (PathTemplate.fill (shown values params) pieces)) := by
  have texts : (pieces.map (templatePart isQuery params)).mapM
      (TemplatePart.display? (hookScope isQuery values)) =
      some (pieces.map fun piece => PathTemplate.fill (shown values params) [piece]) := by
    induction pieces with
    | nil => rfl
    | cons piece rest ih =>
        rw [List.map_cons, List.mapM_cons, display?_templatePart, ih]
        rfl
  rw [Expression.text?, texts, Option.map_some, ← List.flatMap_def]
  simp only [PathTemplate.fill, List.flatMap_singleton]

/-- Path expressions evaluate to the path with the values in place of their names. -/
theorem evaluate?_pathExpression {path : String} {params : List Parameter}
    (plain : ∀ c ∈ path.toList, IsPlain c)
    (identifiers : ∀ name, .hole name ∈ PathTemplate.ofText path → IsIdentifier name.toList)
    (values : String → Datum) (isQuery : Bool) :
    evaluate? (hookScope isQuery values) (pathExpression path params (Hook.accessor isQuery)) =
      some (if params.isEmpty then path
        else String.ofList (PathTemplate.fill (shown values params) (PathTemplate.ofText path))) := by
  rw [evaluate?, pathExpression]
  cases params.isEmpty with
  | true =>
      have read : Expression.read? ("\x27" ++ path ++ "\x27").toList = some (.literal path.toList) := by
        rw [String.toList_append, String.toList_append]
        exact Expression.read?_quoted (quoted?_append plain)
      rw [if_pos rfl, if_pos rfl, read, Option.bind_some, Expression.text?, String.ofList_toList]
  | false =>
      let filled := PathTemplate.fill (fun name =>
        (interpolation params (Hook.accessor isQuery) name).toList) (PathTemplate.ofText path)
      have parts : templateParts? (filled ++ ['\x60']) =
          some ((PathTemplate.ofText path).map (templatePart isQuery params)) :=
        templateParts?_fill (fun c inside => plain c (PathTemplate.mem_of_literal_mem inside))
          identifiers
      have read : Expression.read? ("\x60" ++ String.ofList filled ++ "\x60").toList =
          some (.template ((PathTemplate.ofText path).map (templatePart isQuery params))) := by
        rw [String.toList_append, String.toList_append]
        show (templateParts? ((String.ofList filled).toList ++ ['\x60'])).map Expression.template = _
        rw [String.toList_ofList, parts, Option.map_some]
      rw [if_neg (by decide), if_neg (by decide), read, Option.bind_some, text?_template]

end QueryHooks.TypeScript
