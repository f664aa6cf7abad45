import QueryHooks.Proofs.Text.Percent
import QueryHooks.Proofs.Text.Pieces
import QueryHooks.Reference.Pointer
import QueryHooks.Reference.Target

/-!
Names of letters. In a pointer such a name is written as it is, so a reference to a top-level entry
under it consists of a mark, a slash and the name.
-/

namespace QueryHooks

structure IsWord (name : String) : Prop where
  nonempty : name.toList ≠ []
  letters : ∀ c ∈ name.toList, Text.isLetter c = true

instance (name : String) : Decidable (IsWord name) :=
  decidable_of_iff (name.toList ≠ [] ∧ name.toList.all Text.isLetter = true)
    ⟨fun ⟨nonempty, letters⟩ => ⟨nonempty, List.all_eq_true.1 letters⟩,
      fun word => ⟨word.nonempty, List.all_eq_true.2 word.letters⟩⟩

theorem IsWord.not_mem {name : String} (word : IsWord name) {c : Char}
    (noLetter : Text.isLetter c = false) :
    c ∉ name.toList := by
  intro inside
  rw [word.letters c inside] at noLetter
  cases noLetter

namespace Pointer

theorem unescape_cons {c : Char} (other : c ≠ '~') (rest : List Char) : unescape (c :: rest) = c :: unescape rest := by
  rw [unescape]
  · exact fun _ same _ => other same
  · exact fun _ same _ => other same

theorem unescape_of_not_mem {chars : List Char} (free : '~' ∉ chars) : unescape chars = chars := by
  induction chars with
  | nil => rfl
  | cons c rest ih =>
      obtain ⟨other, later⟩ := List.ne_and_not_mem_of_not_mem_cons free
      rw [unescape_cons other.symm, ih later]

/-- A lone slash aside, nothing is in front of the first slash, and the pieces behind it are the segments. -/
theorem segments_eq_some_iff {pointer : String} (other : pointer ≠ "/") {names : List String} :
    segments? pointer = some names ↔
      ∃ pieces, Text.splitOn '/' pointer.toList = [] :: pieces ∧ pieces.map segmentOf = names := by
  have noLone : pointer.toList ≠ ['/'] := fun same => other (String.toList_injective same)
  unfold segments?
  cases chars : pointer.toList with
  | nil => simp [Text.splitOn, eq_comm]
  | cons c rest =>
      rw [chars] at noLone
      by_cases slash : c = '/'
      · subst slash
        cases rest with
        | nil => exact absurd rfl noLone
        | cons d more => simp [Text.splitOn_cons_self]
      · obtain ⟨piece, others, whole⟩ := List.exists_cons_of_ne_nil (Text.splitOn_ne_nil '/' rest)
        simp [Text.splitOn_cons_of_ne slash whole, slash]

theorem segments_of_word {name : String} (word : IsWord name) :
    segments? ("/" ++ name) = some [name] := by
  have chars : ("/" ++ name).toList = '/' :: name.toList := String.toList_append
  have noSlash : '/' ∉ name.toList := word.not_mem (by decide)
  have whole : segmentOf name.toList = name := by
    rw [segmentOf, Text.Percent.decode_of_not_mem (word.not_mem (by decide)),
      unescape_of_not_mem (word.not_mem (by decide)), String.ofList_toList]
  have other : "/" ++ name ≠ "/" := by
    intro same
    rw [same] at chars
    exact word.nonempty (List.cons.inj chars).2.symm
  have cut : Text.splitOn '/' ('/' :: name.toList) = [[], name.toList] := by
    rw [Text.splitOn_cons_self, Text.splitOn_of_not_mem noSlash]
  refine (segments_eq_some_iff other).2 ⟨[name.toList], chars ▸ cut, ?_⟩
  rw [List.map_singleton, whole]

end Pointer

/-- A reference that is a mark and a pointer leads into the document that it is written in. -/
theorem Reference.target_of_mark (workdir : Place) (document pointer : String) :
    target? workdir document ("#" ++ pointer) = some ⟨document, pointer⟩ := by
  have chars : ("#" ++ pointer).toList = '#' :: pointer.toList := String.toList_append
  have cut : Text.cutAt '#' ("#" ++ pointer).toList = ([], some pointer.toList) := by
    rw [chars, Text.cutAt, beq_self_eq_true]
    rfl
  unfold target?
  rw [cut]
  simp [locate?]

end QueryHooks
