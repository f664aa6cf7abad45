import QueryHooks.Text.Class

/-! Path templates: texts in which a name between braces stands for a value. -/

namespace QueryHooks.PathTemplate

/-- A character that stands for itself, or a name between braces. -/
inductive Piece
  | literal (c : Char)
  | hole (name : String)
deriving DecidableEq, Repr

/-- The name that starts a text and the text after its closing brace. -/
def hole? (chars : List Char) : Option (List Char × List Char) :=
  match chars.takeWhile Text.isWord, chars.dropWhile Text.isWord with
  | [], _ => none
  | name, '\x7d' :: rest => some (name, rest)
  | _, _ => none

theorem hole?_length {chars name rest : List Char} (found : hole? chars = some (name, rest)) :
    rest.length < chars.length := by
  have lengths := congrArg List.length (List.takeWhile_append_dropWhile (p := Text.isWord) (l := chars))
  rw [List.length_append] at lengths
  unfold hole? at found
  split at found
  · simp at found
  · next dropped _ =>
      obtain ⟨_, same⟩ := Prod.mk.inj (Option.some.inj found)
      subst same
      rw [dropped, List.length_cons] at lengths
      omega
  · simp at found

/-- The pieces of a template. A brace that opens no name stands for itself. -/
def pieces (chars : List Char) : List Piece :=
  match chars with
  | [] => []
  | c :: rest =>
      if c == '\x7b' then
        match _found : hole? rest with
        | some (name, after) => .hole (String.ofList name) :: pieces after
        | none => .literal c :: pieces rest
      else .literal c :: pieces rest
termination_by chars.length
decreasing_by
  · have := hole?_length _found
    simp only [List.length_cons]
    omega
  · simp
  · simp

def ofText (path : String) : List Piece := pieces path.toList

def fill (value : String → List Char) (parts : List Piece) : List Char :=
  parts.flatMap fun piece =>
    match piece with
    | .literal c => [c]
    | .hole name => value name

@[simp] theorem fill_literal (value : String → List Char) (c : Char) (parts : List Piece) :
    fill value (.literal c :: parts) = c :: fill value parts := rfl

@[simp] theorem fill_hole (value : String → List Char) (name : String) (parts : List Piece) :
    fill value (.hole name :: parts) = value name ++ fill value parts := rfl

theorem fill_congr {value value' : String → List Char} {parts : List Piece}
    (same : ∀ name, .hole name ∈ parts → value name = value' name) : fill value parts = fill value' parts := by
  induction parts with
  | nil => rfl
  | cons piece rest ih =>
      have later := ih fun name inside => same name (List.mem_cons_of_mem _ inside)
      cases piece with
      | literal c => rw [fill_literal, fill_literal, later]
      | hole name => rw [fill_hole, fill_hole, later, same name List.mem_cons_self]

theorem append_of_hole? {chars name rest : List Char} (found : hole? chars = some (name, rest)) :
    name ++ '\x7d' :: rest = chars := by
  unfold hole? at found
  split at found
  · simp at found
  · next dropped _ =>
      obtain ⟨sameName, sameRest⟩ := Prod.mk.inj (Option.some.inj found)
      rw [← sameName, ← sameRest, ← dropped, List.takeWhile_append_dropWhile]
  · simp at found

/-- With every name between its braces again, the pieces of a template are the template. -/
theorem fill_pieces (chars : List Char) :
    fill (fun name => '\x7b' :: name.toList ++ ['\x7d']) (pieces chars) = chars := by
  fun_induction pieces chars with
  | case1 => rfl
  | case2 c rest opens name after found ih =>
      rw [fill_hole, ih, String.toList_ofList, List.cons_append, List.cons_append, List.append_assoc,
        List.singleton_append, append_of_hole? found, beq_iff_eq.1 opens]
  | case3 c rest opens found ih => rw [fill_literal, ih]
  | case4 c rest other ih => rw [fill_literal, ih]

theorem mem_of_literal_mem {c : Char} {chars : List Char} (inside : .literal c ∈ pieces chars) : c ∈ chars := by
  rw [← fill_pieces chars]
  exact List.mem_flatMap.2 ⟨.literal c, inside, List.mem_singleton.2 rfl⟩

end QueryHooks.PathTemplate
