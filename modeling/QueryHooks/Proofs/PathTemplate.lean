import Mathlib.Data.List.Basic
import QueryHooks.PathTemplate

/-!
Where names stand in a path. A name between braces is found only if it is made of word characters; any other text
between braces stands for itself, braces and all.
-/

namespace QueryHooks.PathTemplate

open QueryHooks.Text (isWord)

variable {chars name rest : List Char}

/-- Whether a text between braces is found as a name: it has a character, and word characters only. -/
def isHoleName (chars : List Char) : Bool := !chars.isEmpty && chars.all isWord

theorem hole?_iff : hole? chars = some (name, rest) ↔
    isHoleName name = true ∧ chars = name ++ '\x7d' :: rest := by
  constructor
  · intro found
    refine ⟨?_, (append_of_hole? found).symm⟩
    unfold hole? at found
    split at found
    · cases found
    · next nonEmpty =>
        obtain ⟨rfl, -⟩ := Prod.mk.inj (Option.some.inj found)
        rw [isHoleName, List.all_takeWhile, Bool.and_true]
        cases starts : chars.takeWhile isWord with
        | nil => exact absurd starts nonEmpty
        | cons => rfl
    · cases found
  · rintro ⟨isName, rfl⟩
    rw [isHoleName, Bool.and_eq_true, List.all_eq_true] at isName
    obtain ⟨nonEmpty, word⟩ := isName
    unfold hole?
    rw [List.takeWhile_append_of_pos word, List.dropWhile_append_of_pos word,
      List.takeWhile_cons_of_neg (by decide), List.dropWhile_cons_of_neg (by decide), List.append_nil]
    cases name with
    | nil => cases nonEmpty
    | cons c others => rfl

theorem isHoleName_of_hole {hole : String} (inside : .hole hole ∈ pieces chars) : isHoleName hole.toList = true := by
  fun_induction pieces chars with
  | case1 => cases inside
  | case2 c rest opens name after found ih =>
      rcases List.mem_cons.1 inside with same | later
      · rw [Piece.hole.inj same, String.toList_ofList]
        exact (hole?_iff.1 found).1
      · exact ih later
  | case3 c rest opens found ih =>
      rcases List.mem_cons.1 inside with same | later
      · cases same
      · exact ih later
  | case4 c rest other ih =>
      rcases List.mem_cons.1 inside with same | later
      · cases same
      · exact ih later

/-! ## Occurrences of a name -/

theorem pieces_of_hole (isName : isHoleName name = true) (rest : List Char) :
    pieces ('\x7b' :: (name ++ '\x7d' :: rest)) = .hole (String.ofList name) :: pieces rest := by
  have found : hole? (name ++ '\x7d' :: rest) = some (name, rest) := hole?_iff.2 ⟨isName, rfl⟩
  rw [pieces, beq_self_eq_true, if_pos rfl]
  split
  · next found' =>
      rw [found] at found'
      obtain ⟨rfl, rfl⟩ := Prod.mk.inj (Option.some.inj found')
      rfl
  · next none =>
      rw [found] at none
      cases none

theorem pieces_of_no_hole (none : hole? rest = none) :
    pieces ('\x7b' :: rest) = .literal '\x7b' :: pieces rest := by
  rw [pieces, beq_self_eq_true, if_pos rfl]
  split
  · next found =>
      rw [none] at found
      cases found
  · rfl

theorem pieces_cons_of_ne {c : Char} (other : c ≠ '\x7b') (rest : List Char) :
    pieces (c :: rest) = .literal c :: pieces rest := by
  rw [pieces, beq_eq_false_iff_ne.2 other, if_neg (by decide)]

/-- A text without opening braces stands for itself. -/
theorem pieces_append_of_not_mem (plain : '\x7b' ∉ chars) (rest : List Char) :
    pieces (chars ++ rest) = chars.map .literal ++ pieces rest := by
  induction chars with
  | nil => rfl
  | cons c chars ih =>
      rw [List.mem_cons, not_or] at plain
      rw [List.cons_append, pieces_cons_of_ne (Ne.symm plain.1), ih plain.2]
      rfl

theorem not_mem_of_isHoleName {c : Char} (isName : isHoleName name = true) (other : isWord c = false) : c ∉ name := by
  intro inside
  rw [isHoleName, Bool.and_eq_true, List.all_eq_true] at isName
  rw [isName.2 c inside] at other
  cases other

/-- No name goes on over an opening brace. -/
theorem hole?_append_brace (chars rest : List Char) : hole? (chars ++ '\x7b' :: rest) =
    (hole? chars).map fun (name, after) => (name, after ++ '\x7b' :: rest) := by
  cases found : hole? chars with
  | some result =>
      obtain ⟨name, after⟩ := result
      obtain ⟨isName, rfl⟩ := hole?_iff.1 found
      exact hole?_iff.2 ⟨isName, by simp⟩
  | none =>
      cases longer : hole? (chars ++ '\x7b' :: rest) with
      | none => rfl
      | some result =>
          obtain ⟨name, after⟩ := result
          obtain ⟨isName, whole⟩ := hole?_iff.1 longer
          -- The hole in the longer text ends behind the brace, and then has it in its name, or before it.
          rcases List.append_eq_append_iff.1 whole with ⟨more, rfl, same⟩ | ⟨more, rfl, same⟩
          · cases more with
            | nil => cases (List.cons.inj same).1
            | cons c more =>
                obtain ⟨rfl, -⟩ := List.cons.inj same
                exact absurd (List.mem_append_right _ List.mem_cons_self)
                  (not_mem_of_isHoleName (c := '\x7b') isName (by decide))
          · cases more with
            | nil => cases (List.cons.inj same).1
            | cons c more =>
                obtain ⟨rfl, -⟩ := List.cons.inj same
                rw [hole?_iff.2 ⟨isName, rfl⟩] at found
                cases found

/-- The pieces of a text before an opening brace are those of the text alone. -/
theorem pieces_append_brace (chars rest : List Char) :
    pieces (chars ++ '\x7b' :: rest) = pieces chars ++ pieces ('\x7b' :: rest) := by
  fun_induction pieces chars with
  | case1 => rfl
  | case2 c others opens name after found ih =>
      obtain ⟨isName, rfl⟩ := hole?_iff.1 found
      rw [beq_iff_eq.1 opens, List.cons_append, List.append_assoc, List.cons_append, pieces_of_hole isName, ih]
      rfl
  | case3 c others opens none ih =>
      have longer : hole? (others ++ '\x7b' :: rest) = .none := by rw [hole?_append_brace, none]; rfl
      rw [beq_iff_eq.1 opens, List.cons_append, pieces_of_no_hole longer, ih]
      rfl
  | case4 c others other ih =>
      rw [List.cons_append, pieces_cons_of_ne (fun same => other (beq_iff_eq.2 same)), ih]
      rfl

/--
What a text between braces becomes: a name that is found, or itself if a character of it is in no word, or if there is
none.
-/
theorem pieces_occurrence (before after : List Char) (plain : '\x7b' ∉ name ∧ '\x7d' ∉ name) :
    pieces (before ++ '\x7b' :: (name ++ '\x7d' :: after)) = pieces before ++
      ((if isHoleName name then [.hole (String.ofList name)] else ('\x7b' :: (name ++ ['\x7d'])).map .literal) ++
        pieces after) := by
  rw [pieces_append_brace]
  split
  · next isName => rw [pieces_of_hole isName]; rfl
  · next noName =>
      have none : hole? (name ++ '\x7d' :: after) = .none := by
        cases found : hole? (name ++ '\x7d' :: after) with
        | none => rfl
        | some result =>
            obtain ⟨name', after'⟩ := result
            obtain ⟨isName, whole⟩ := hole?_iff.1 found
            have both := congrArg (List.takeWhile (· != '\x7d')) whole
            have up {chars rest : List Char} (apart : '\x7d' ∉ chars) :
                (chars ++ '\x7d' :: rest).takeWhile (· != '\x7d') = chars := by
              have within : ∀ c ∈ chars, (c != '\x7d') = true := fun c inside =>
                bne_iff_ne.2 fun same => apart (same ▸ inside)
              rw [List.takeWhile_append_of_pos within, List.takeWhile_cons_of_neg (by decide),
                List.append_nil]
            rw [up plain.2, up (not_mem_of_isHoleName isName (by decide))] at both
            exact absurd (both ▸ isName) noName
      rw [pieces_of_no_hole none, pieces_append_of_not_mem plain.1, pieces_cons_of_ne (by decide), List.map_cons,
        List.map_append]
      simp

end QueryHooks.PathTemplate
