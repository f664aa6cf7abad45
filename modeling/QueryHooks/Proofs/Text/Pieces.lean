import Mathlib.Data.List.TakeDrop
import QueryHooks.Text.Lines

/-! The pieces of a text between marks, and its parts before and after a mark. -/

namespace QueryHooks.Text

variable {mark : Char} {chars tail : List Char}

theorem splitOn_ne_nil (mark : Char) (chars : List Char) : splitOn mark chars ≠ [] := by
  cases chars with
  | nil => exact List.cons_ne_nil _ _
  | cons c rest =>
      rw [splitOn]
      split
      · exact List.cons_ne_nil _ _
      · split <;> exact List.cons_ne_nil _ _

theorem splitOn_cons_self (mark : Char) (chars : List Char) :
    splitOn mark (mark :: chars) = [] :: splitOn mark chars := by
  rw [splitOn, beq_self_eq_true, if_pos rfl]

theorem splitOn_cons_of_ne {c : Char} {piece : List Char} {others : List (List Char)} (other : c ≠ mark)
    (whole : splitOn mark chars = piece :: others) :
    splitOn mark (c :: chars) = (c :: piece) :: others := by
  rw [splitOn, beq_false_of_ne other, whole]
  rfl

theorem splitOn_of_not_mem (free : mark ∉ chars) :
    splitOn mark chars = [chars] := by
  induction chars with
  | nil => rfl
  | cons c rest ih =>
      have other : (c == mark) = false := beq_false_of_ne fun same =>
        free (same ▸ List.mem_cons_self)
      rw [splitOn, other, ih fun later => free (List.mem_cons_of_mem c later)]
      rfl

theorem splitOn_append_mark (free : mark ∉ chars) :
    splitOn mark (chars ++ mark :: tail) = chars :: splitOn mark tail := by
  induction chars with
  | nil => exact splitOn_cons_self mark tail
  | cons c rest ih =>
      obtain ⟨other, later⟩ := List.ne_and_not_mem_of_not_mem_cons free
      exact splitOn_cons_of_ne other.symm (ih later)

/-- A mark ends a piece, whatever comes before it. -/
theorem splitOn_append_mark_append (mark : Char) (chars tail : List Char) :
    splitOn mark (chars ++ mark :: tail) = splitOn mark chars ++ splitOn mark tail := by
  induction chars with
  | nil => exact splitOn_append_mark List.not_mem_nil
  | cons c rest ih =>
      by_cases same : c = mark
      · rw [same, List.cons_append, splitOn_cons_self, splitOn_cons_self, ih, List.cons_append]
      · obtain ⟨piece, others, whole⟩ := List.exists_cons_of_ne_nil (splitOn_ne_nil mark rest)
        rw [whole] at ih
        rw [splitOn_cons_of_ne same whole]
        exact splitOn_cons_of_ne same ih

/-- What comes after the last mark joins the last piece. -/
theorem splitOn_append (free : mark ∉ tail) :
    splitOn mark (chars ++ tail) =
      (splitOn mark chars).dropLast ++ [(splitOn mark chars).getLast?.getD [] ++ tail] := by
  induction chars with
  | nil => exact splitOn_of_not_mem free
  | cons c rest ih =>
      obtain ⟨piece, others, whole⟩ := List.exists_cons_of_ne_nil (splitOn_ne_nil mark rest)
      rw [whole] at ih
      by_cases same : c = mark
      · rw [same, List.cons_append, splitOn_cons_self, splitOn_cons_self, ih, whole]
        rfl
      · rw [splitOn_cons_of_ne same whole]
        cases others with
        | nil => exact splitOn_cons_of_ne same ih
        | cons second more => exact splitOn_cons_of_ne same ih

/-- Lines that each end in a mark are the pieces, and nothing follows the last. -/
theorem splitOn_flatMap {lines : List (List Char)} (free : ∀ line ∈ lines, mark ∉ line) :
    splitOn mark (lines.flatMap (· ++ [mark])) = lines ++ [[]] := by
  induction lines with
  | nil => rfl
  | cons line rest ih =>
      rw [List.flatMap_cons, List.append_assoc, List.singleton_append,
        splitOn_append_mark (free line List.mem_cons_self),
        ih fun other inside => free other (List.mem_cons_of_mem line inside), List.cons_append]

theorem subset_of_mem_splitOn {mark : Char} {chars piece : List Char}
    (inside : piece ∈ splitOn mark chars) :
    piece ⊆ chars := by
  induction chars generalizing piece with
  | nil =>
      rw [List.mem_singleton.1 inside]
      exact List.Subset.refl _
  | cons c rest ih =>
      rw [splitOn] at inside
      split at inside
      · rcases List.mem_cons.1 inside with same | later
        · rw [same]
          exact List.nil_subset _
        · exact List.subset_cons_of_subset c (ih later)
      · split at inside
        · next none =>
            have same := List.mem_singleton.1 inside
            rw [same]
            exact List.cons_subset_cons c (List.nil_subset rest)
        · next first others whole =>
            rcases List.mem_cons.1 inside with same | later
            · rw [same]
              exact List.cons_subset_cons c (ih (whole ▸ List.mem_cons_self))
            · exact List.subset_cons_of_subset c (ih (whole ▸ List.mem_cons_of_mem first later))

theorem not_mem_of_mem_splitOn {piece : List Char} (inside : piece ∈ splitOn mark chars) : mark ∉ piece := by
  induction chars generalizing piece with
  | nil => exact List.mem_singleton.1 inside ▸ List.not_mem_nil
  | cons c rest ih =>
      by_cases same : c = mark
      · rw [same, splitOn_cons_self] at inside
        rcases List.mem_cons.1 inside with rfl | later
        · exact List.not_mem_nil
        · exact ih later
      · obtain ⟨first, others, whole⟩ := List.exists_cons_of_ne_nil (splitOn_ne_nil mark rest)
        rw [splitOn_cons_of_ne same whole] at inside
        rcases List.mem_cons.1 inside with rfl | later
        · exact List.not_mem_cons_of_ne_of_not_mem (Ne.symm same) (ih (whole ▸ List.mem_cons_self))
        · exact ih (whole ▸ List.mem_cons_of_mem first later)

/-- Pieces without the mark are what a text of them with marks between is split into. -/
theorem splitOn_intercalate {pieces : List (List Char)} (some : pieces ≠ [])
    (free : ∀ piece ∈ pieces, mark ∉ piece) : splitOn mark ([mark].intercalate pieces) = pieces := by
  induction pieces with
  | nil => exact absurd rfl some
  | cons piece rest ih =>
      have first := free piece List.mem_cons_self
      cases rest with
      | nil => rw [List.intercalate_singleton, splitOn_of_not_mem first]
      | cons second others =>
          rw [List.intercalate_cons_cons, List.append_assoc, List.singleton_append, splitOn_append_mark first,
            ih (List.cons_ne_nil _ _) fun other inside => free other (List.mem_cons_of_mem _ inside)]

/-- The pieces with marks between them are the text. -/
theorem intercalate_splitOn (mark : Char) (chars : List Char) : [mark].intercalate (splitOn mark chars) = chars := by
  induction chars with
  | nil => rfl
  | cons c rest ih =>
      obtain ⟨piece, others, whole⟩ := List.exists_cons_of_ne_nil (splitOn_ne_nil mark rest)
      by_cases same : c = mark
      · rw [same, splitOn_cons_self, whole, List.intercalate_cons_cons, ← whole, ih]
        rfl
      · rw [splitOn_cons_of_ne same whole]
        rw [whole] at ih
        cases others with
        | nil => exact congrArg (c :: ·) ih
        | cons next others => exact congrArg (c :: ·) ih

theorem cutAt_fst_subset (mark : Char) (chars : List Char) : (cutAt mark chars).1 ⊆ chars := by
  induction chars with
  | nil => exact List.Subset.refl _
  | cons c rest ih =>
      rw [cutAt]
      split
      · exact List.nil_subset _
      · exact List.cons_subset_cons c ih

theorem not_mem_cutAt_fst (mark : Char) (chars : List Char) : mark ∉ (cutAt mark chars).1 := by
  induction chars with
  | nil => exact List.not_mem_nil
  | cons c rest ih =>
      rw [cutAt]
      split
      · exact List.not_mem_nil
      · next other =>
          intro inside
          rcases List.mem_cons.1 inside with same | later
          · exact other (beq_iff_eq.2 same.symm)
          · exact ih later

theorem subset_of_cutAt_snd {mark : Char} {chars after : List Char}
    (found : (cutAt mark chars).2 = some after) :
    after ⊆ chars := by
  induction chars with
  | nil => cases found
  | cons c rest ih =>
      rw [cutAt] at found
      split at found
      · injection found with same
        rw [same]
        exact List.subset_cons_self c _
      · exact List.subset_cons_of_subset c (ih found)

theorem cutAt_of_not_mem {mark : Char} {chars : List Char} (free : mark ∉ chars) :
    cutAt mark chars = (chars, none) := by
  induction chars with
  | nil => rfl
  | cons c rest ih =>
      have other : (c == mark) = false := beq_false_of_ne fun same =>
        free (same ▸ List.mem_cons_self)
      rw [cutAt, other, ih fun later => free (List.mem_cons_of_mem c later)]
      rfl

theorem cutAt_append {mark : Char} {chars rest : List Char} (free : mark ∉ chars) :
    cutAt mark (chars ++ mark :: rest) = (chars, some rest) := by
  induction chars with
  | nil =>
      rw [List.nil_append, cutAt, beq_self_eq_true]
      rfl
  | cons c chars ih =>
      have other : (c == mark) = false := beq_false_of_ne fun same =>
        free (same ▸ List.mem_cons_self)
      rw [List.cons_append, cutAt, other, ih fun later => free (List.mem_cons_of_mem c later)]
      rfl

theorem mem_of_mem_intercalate {c : Char} {between : List Char} {pieces : List (List Char)}
    (inside : c ∈ between.intercalate pieces) : c ∈ between ∨ ∃ piece ∈ pieces, c ∈ piece := by
  induction pieces with
  | nil => cases inside
  | cons first rest ih =>
      cases rest with
      | nil =>
          rw [List.intercalate_singleton] at inside
          exact .inr ⟨first, List.mem_cons_self, inside⟩
      | cons second others =>
          rw [List.intercalate_cons_cons, List.mem_append, List.mem_append] at inside
          rcases inside with (here | here) | later
          · exact .inr ⟨first, List.mem_cons_self, here⟩
          · exact .inl here
          · rcases ih later with here | ⟨piece, member, here⟩
            · exact .inl here
            · exact .inr ⟨piece, List.mem_cons_of_mem _ member, here⟩

theorem infix_intercalate {between piece : List Char} {pieces : List (List Char)} (inside : piece ∈ pieces) :
    piece <:+: between.intercalate pieces := by
  induction pieces with
  | nil => cases inside
  | cons first rest ih =>
      cases rest with
      | nil =>
          have single : between.intercalate [first] = first := List.intercalate_singleton
          obtain rfl := List.mem_singleton.1 inside
          exact single.symm ▸ List.infix_rfl
      | cons second others =>
          rw [List.intercalate_cons_cons]
          rcases List.mem_cons.1 inside with rfl | later
          · exact ((List.prefix_append _ _).trans (List.prefix_append _ _)).isInfix
          · exact (ih later).trans (List.suffix_append _ _).isInfix

theorem subset_intercalate {between piece : List Char} {pieces : List (List Char)} (inside : piece ∈ pieces) :
    piece ⊆ between.intercalate pieces :=
  (infix_intercalate inside).subset

/-- Pieces between marks start as the first of them does. -/
theorem exists_intercalate_append (c : Char) (tail between behind : List Char) (others : List (List Char)) :
    ∃ more, between.intercalate ((c :: tail) :: others) ++ behind = c :: more := by
  cases others with
  | nil => exact ⟨tail ++ behind, by rw [List.intercalate_singleton, List.cons_append]⟩
  | cons next others =>
      rw [List.intercalate_cons_cons, List.append_assoc, List.append_assoc, List.cons_append]
      exact ⟨_, rfl⟩

/-- A mark in front of pieces between marks is one in front of each. -/
theorem cons_intercalate (mark : Char) {pieces : List (List Char)} (some : pieces ≠ []) :
    mark :: [mark].intercalate pieces = pieces.flatMap (mark :: ·) := by
  induction pieces with
  | nil => exact absurd rfl some
  | cons piece others ih =>
      cases others with
      | nil => rw [List.intercalate_singleton, List.flatMap_singleton]
      | cons next others =>
          rw [List.flatMap_cons, ← ih (List.cons_ne_nil _ _), List.intercalate_cons_cons, List.append_assoc,
            List.singleton_append, List.cons_append]

/-- Pieces without the mark, each behind one, are split again, with nothing in front of the first. -/
theorem splitOn_flatMap_cons {pieces : List (List Char)} (free : ∀ piece ∈ pieces, mark ∉ piece) :
    splitOn mark (pieces.flatMap (mark :: ·)) = [] :: pieces := by
  cases pieces with
  | nil => rfl
  | cons piece others =>
      rw [← cons_intercalate mark (List.cons_ne_nil _ _), splitOn_cons_self,
        splitOn_intercalate (List.cons_ne_nil _ _) free]

/-- A mark in front of pieces with a mark behind each is one in front of each, and one at the end. -/
theorem cons_flatMap_concat (mark : Char) (pieces : List (List Char)) :
    mark :: pieces.flatMap (· ++ [mark]) = pieces.flatMap (mark :: ·) ++ [mark] := by
  induction pieces with
  | nil => rfl
  | cons piece others ih =>
      rw [List.flatMap_cons, List.flatMap_cons, List.append_assoc, List.singleton_append, ih]
      simp only [List.cons_append, List.append_assoc]

theorem universalNewlines_of_not_mem (free : '\r' ∉ chars) : universalNewlines chars = chars := by
  induction chars with
  | nil => rfl
  | cons c rest ih =>
      have other : c ≠ '\r' := fun same => free (same ▸ List.mem_cons_self)
      rw [universalNewlines, ih fun inside => free (List.mem_cons_of_mem _ inside)]
      · exact fun _ same => absurd same other
      · exact fun same => absurd same other

end QueryHooks.Text
