import Mathlib.Data.List.TakeDrop
import QueryHooks.Proofs.Text.Pieces
import QueryHooks.Reference.Target

/-!
The mark `#` between a document and a pointer. No key that a reference forms has one when none of
the keys and names that it is formed from has one, and without it in the document a target is
determined by its absolute name.
-/

namespace QueryHooks

/-- Whether the mark is nowhere in a text. -/
def Unmarked (text : String) : Prop := '#' ∉ text.toList

instance (text : String) : Decidable (Unmarked text) :=
  inferInstanceAs (Decidable ('#' ∉ text.toList))

/-- A target in a document whose key has no mark is determined by its absolute name. -/
theorem Target.eq_of_key_eq {t t' : Target} (free : Unmarked t.document)
    (free' : Unmarked t'.document) (same : t.key = t'.key) : t = t' := by
  have chars := congrArg String.toList same
  have cut : Text.cutAt '#' t.key.toList = (t.document.toList, some t.pointer.toList) := by
    rw [key, String.toList_append, String.toList_append, List.append_assoc]
    exact Text.cutAt_append free
  have cut' : Text.cutAt '#' t'.key.toList = (t'.document.toList, some t'.pointer.toList) := by
    rw [key, String.toList_append, String.toList_append, List.append_assoc]
    exact Text.cutAt_append free'
  rw [chars, cut'] at cut
  obtain ⟨documents, pointers⟩ := Prod.mk.inj cut
  have sameDocument : t.document = t'.document := String.toList_inj.1 documents.symm
  have samePointer : t.pointer = t'.pointer := String.toList_inj.1 (Option.some.inj pointers).symm
  cases t
  cases t'
  rw [Target.mk.injEq]
  exact ⟨sameDocument, samePointer⟩

/-- An absolute name with one mark names one target only. -/
theorem Target.eq_of_key_eq_unmarked {t t' : Target} (free' : Unmarked t'.document)
    (pointerFree : Unmarked t'.pointer) (same : t.key = t'.key) : t = t' := by
  refine eq_of_key_eq ?_ free' same
  have marks := congrArg (fun key => key.toList.count '#') same
  simp only [key, String.toList_append, List.count_append] at marks
  rw [List.count_eq_zero.2 free', List.count_eq_zero.2 pointerFree] at marks
  exact List.count_eq_zero.1 (by omega)

namespace Path

variable {workdir : Place} {p : Path}

theorem unmarked_of_mem_segments {text segment : String} (free : Unmarked text)
    (inside : segment ∈ (ofText text).segments) : Unmarked segment := by
  obtain ⟨chars, member, same⟩ := List.mem_map.1 (List.mem_filter.1 inside).1
  subst same
  intro marked
  rw [String.toList_ofList] at marked
  exact free (Text.subset_of_mem_splitOn member marked)

private theorem mem_foldl_follow {here : Place} {segments : List String} {name : String}
    (inside : name ∈ segments.foldl follow here) : name ∈ here ∨ name ∈ segments := by
  induction segments generalizing here with
  | nil => exact .inl inside
  | cons segment rest ih =>
      rcases ih inside with before | later
      · rw [follow] at before
        split at before
        · exact .inl (List.dropLast_subset here before)
        · rcases List.mem_append.1 before with before | this
          · exact .inl before
          · rw [List.mem_singleton.1 this]
            exact .inr List.mem_cons_self
      · exact .inr (List.mem_cons_of_mem _ later)

theorem mem_of_mem_resolve {name : String} (inside : name ∈ p.resolve workdir) : name ∈ workdir ∨
    name ∈ p.segments := by
  rcases mem_foldl_follow inside with before | here
  · split at before
    · cases before
    · exact .inl before
  · exact .inr here

theorem unmarked_placeText {place : Place} (free : ∀ name ∈ place, Unmarked name) :
    Unmarked (placeText place) := by
  intro marked
  have text : placeText place = "/" ++ "/".intercalate place := rfl
  rw [text, String.toList_append, String.toList_intercalate] at marked
  rcases List.mem_append.1 marked with atFirst | within
  · exact absurd atFirst (by decide)
  · rcases Text.mem_of_mem_intercalate within with between | ⟨piece, inside, here⟩
    · exact absurd between (by decide)
    · obtain ⟨name, member, same⟩ := List.mem_map.1 inside
      subst same
      exact free name member here

end Path

namespace Url

theorem divide_subset (mark : Char) (chars : List Char) :
    (divide mark chars).1 ⊆ chars ∧ (divide mark chars).2 ⊆ chars := by
  unfold divide
  split
  · next before after cut =>
      have first := Text.cutAt_fst_subset mark chars
      rw [cut] at first
      exact ⟨first, Text.subset_of_cutAt_snd (congrArg Prod.snd cut)⟩
  · next before cut =>
      have first := Text.cutAt_fst_subset mark chars
      rw [cut] at first
      exact ⟨first, List.nil_subset chars⟩

theorem divide_of_not_mem {mark : Char} {chars : List Char} (free : mark ∉ chars) :
    divide mark chars = (chars, []) := by
  rw [divide, Text.cutAt_of_not_mem free]

private theorem toLower_ne_mark {c : Char} (other : c ≠ '#') : c.toLower ≠ '#' := by
  intro same
  unfold Char.toLower at same
  split at same
  · next upper =>
      have value := congrArg (fun c : Char => c.val.toNat) same
      have low : 'A'.val.toNat ≤ c.val.toNat := upper.1
      have high : c.val.toNat ≤ 'Z'.val.toNat := upper.2
      simp only [UInt32.toNat_add, Char.reduceVal, UInt32.reduceSub,
        UInt32.reduceToNat] at value low high
      omega
  · exact other same

theorem splitScheme_unmarked {chars : List Char} (free : '#' ∉ chars) :
    (∀ scheme, (splitScheme chars).1 = some scheme → '#' ∉ scheme) ∧ '#' ∉ (splitScheme chars).2 :=
    by
  unfold splitScheme
  split
  · next scheme rest cut =>
      have first := Text.cutAt_fst_subset ':' chars
      have second : rest ⊆ chars := Text.subset_of_cutAt_snd (congrArg Prod.snd cut)
      rw [cut] at first
      split
      · constructor
        · intro lowered same marked
          injection same with same
          subst same
          obtain ⟨c, inside, lower⟩ := List.mem_map.1 marked
          exact toLower_ne_mark (fun isMark => free (first (isMark ▸ inside))) lower
        · exact fun marked => free (second marked)
      · constructor
        · intro scheme impossible
          cases impossible
        · exact free
  · constructor
    · intro scheme impossible
      cases impossible
    · exact free

theorem splitAuthority_subset (chars : List Char) :
    (splitAuthority chars).1 ⊆ chars ∧ (splitAuthority chars).2 ⊆ chars := by
  unfold splitAuthority
  split
  · next rest =>
      rw [List.span_eq_takeWhile_dropWhile]
      have inside : rest ⊆ '/' :: '/' :: rest :=
        List.subset_cons_of_subset _ (List.subset_cons_self _ rest)
      constructor
      · exact List.Subset.trans (List.takeWhile_sublist _).subset inside
      · exact List.Subset.trans (List.dropWhile_sublist _).subset inside
  · exact ⟨List.nil_subset _, List.Subset.refl _⟩

theorem splitParameters_subset (chars : List Char) :
    (splitParameters chars).1 ⊆ chars ∧ (splitParameters chars).2 ⊆ chars := by
  unfold splitParameters
  dsimp only
  generalize isLast : chars.reverse.takeWhile (· != '/') = last
  have inside : last.reverse ⊆ chars := by
    intro c member
    rw [List.mem_reverse, ← isLast] at member
    exact List.mem_reverse.1 ((List.takeWhile_sublist _).subset member)
  obtain ⟨name, parameters⟩ := divide_subset ';' last.reverse
  constructor
  · intro c member
    rcases List.mem_append.1 member with before | here
    · exact List.take_subset _ chars before
    · exact inside (name here)
  · exact List.Subset.trans parameters inside

/-- Whether no part of an address has the mark; it has no fragment then. -/
structure Parts.Plain (p : Parts) : Prop where
  scheme : '#' ∉ p.scheme
  authority : '#' ∉ p.authority
  path : '#' ∉ p.path
  parameters : '#' ∉ p.parameters
  query : '#' ∉ p.query
  fragment : p.fragment = []

theorem plain_of_parts {scheme chars : List Char} {p : Parts} (schemeFree : '#' ∉ scheme)
    (free : '#' ∉ chars) (found : parts? scheme chars = some p) : p.Plain := by
  unfold parts? at found
  dsimp only at found
  generalize isClean : (chars.dropWhile (· ≤ ' ')).filter
    (fun c => c != '\t' && c != '\r' && c != '\n') = clean at found
  -- Every part is cut out of the cleaned text, which has no more characters than the text itself.
  have cleanFree : '#' ∉ clean := by
    intro marked
    rw [← isClean] at marked
    exact free ((List.dropWhile_sublist _).subset (List.mem_filter.1 marked).1)
  obtain ⟨ownFree, restFree⟩ := splitScheme_unmarked cleanFree
  obtain ⟨authority, afterAuthority⟩ := splitAuthority_subset (splitScheme clean).2
  have pathFree : '#' ∉ (splitAuthority (splitScheme clean).2).2 := fun marked =>
    restFree (afterAuthority marked)
  obtain ⟨beforeQuery, query⟩ := divide_subset '?' (splitAuthority (splitScheme clean).2).2
  split at found
  · cases found
  · injection found with same
    subst same
    rw [divide_of_not_mem pathFree]
    obtain ⟨path, parameters⟩ := splitParameters_subset
      (divide '?' (splitAuthority (splitScheme clean).2).2).1
    constructor
    · cases own : (splitScheme clean).1 with
      | none => exact schemeFree
      | some lowered => exact ownFree lowered own
    · exact fun marked => restFree (authority marked)
    · exact fun marked => pathFree (beforeQuery (path marked))
    · exact fun marked => pathFree (beforeQuery (parameters marked))
    · exact fun marked => pathFree (query marked)
    · rfl

private theorem mem_after {mark c : Char} {chars : List Char}
    (inside : c ∈ (if chars.isEmpty then [] else mark :: chars)) : c = mark ∨ c ∈ chars := by
  split at inside
  · cases inside
  · exact List.mem_cons.1 inside

theorem unmarked_text {p : Parts} (plain : p.Plain) : '#' ∉ p.text := by
  have pathFree : '#' ∉ p.path ++ (if p.parameters.isEmpty then [] else ';' :: p.parameters) := by
    -- The text is put together from the parts and separators, none of which is the mark.
    intro marked
    rcases List.mem_append.1 marked with before | after
    · exact plain.path before
    · rcases mem_after after with same | inside
      · exact absurd same (by decide)
      · exact plain.parameters inside
  intro marked
  unfold Parts.text at marked
  rw [plain.fragment] at marked
  rcases List.mem_append.1 marked with marked | atLast
  · rcases List.mem_append.1 marked with marked | query
    · rcases List.mem_append.1 marked with marked | rooted
      · rcases List.mem_append.1 marked with scheme | authority
        · exact plain.scheme scheme
        · rcases List.mem_cons.1 authority with same | authority
          · exact absurd same (by decide)
          rcases List.mem_cons.1 authority with same | authority
          · exact absurd same (by decide)
          rcases List.mem_cons.1 authority with same | authority
          · exact absurd same (by decide)
          exact plain.authority authority
      · split at rooted
        · exact pathFree rooted
        · rcases List.mem_cons.1 rooted with same | rooted
          · exact absurd same (by decide)
          · exact pathFree rooted
    · rcases mem_after query with same | inside
      · exact absurd same (by decide)
      · exact plain.query inside
  · cases atLast

private theorem mem_removeDots {kept segments : List (List Char)} {segment : List Char}
    (inside : segment ∈ removeDots kept segments) : segment ∈ kept ∨ segment ∈ segments := by
  fun_induction removeDots kept segments with
  | case1 kept => exact .inl (List.mem_reverse.1 inside)
  | case2 kept rest ih =>
      rcases ih inside with before | later
      · exact .inl (List.mem_of_mem_tail before)
      · exact .inr (List.mem_cons_of_mem _ later)
  | case3 kept rest ih =>
      rcases ih inside with before | later
      · exact .inl before
      · exact .inr (List.mem_cons_of_mem _ later)
  | case4 kept first rest _ _ ih =>
      rcases ih inside with before | later
      · rcases List.mem_cons.1 before with same | before
        · exact .inr (same ▸ List.mem_cons_self)
        · exact .inl before
      · exact .inr (List.mem_cons_of_mem _ later)

private theorem mem_directory {path segment : List Char} (inside : segment ∈ directory path) :
    segment ∈ Text.splitOn '/' path := by
  dsimp only [directory] at inside
  split at inside
  · exact inside
  · exact List.dropLast_subset _ inside

private theorem mem_dropInnerEmpty {segments : List (List Char)} {segment : List Char}
    (inside : segment ∈ dropInnerEmpty segments) : segment ∈ segments := by
  cases segments with
  | nil => cases inside
  | cons first rest =>
      rcases List.mem_append.1 inside with inside | last
      · rcases List.mem_cons.1 inside with same | inside
        · exact same ▸ List.mem_cons_self
        · exact List.mem_cons_of_mem _ (List.dropLast_subset _ (List.mem_filter.1 inside).1)
      · exact List.mem_cons_of_mem _ (List.mem_of_getLast? (Option.mem_toList.1 last))

private theorem unmarked_joinSegments {base path segment : List Char} (baseFree : '#' ∉ base)
    (pathFree : '#' ∉ path) (inside : segment ∈ joinSegments base path) : '#' ∉ segment := by
  intro marked
  unfold joinSegments at inside
  split at inside
  · exact pathFree (Text.subset_of_mem_splitOn inside marked)
  · rcases List.mem_append.1 (mem_dropInnerEmpty inside) with ofBase | ofPath
    · exact baseFree (Text.subset_of_mem_splitOn (mem_directory ofBase) marked)
    · exact pathFree (Text.subset_of_mem_splitOn ofPath marked)

private theorem eq_nil_of_mem_ending {segments : List (List Char)} {segment : List Char}
    (inside : segment ∈ ending segments) : segment = [] := by
  unfold ending at inside
  split at inside
  · exact List.mem_singleton.1 inside
  · cases inside

theorem unmarked_joinPath {base path : List Char} (baseFree : '#' ∉ base) (pathFree : '#' ∉ path) :
    '#' ∉ joinPath base path := by
  dsimp only [joinPath]
  split
  · decide
  · intro marked
    rcases Text.mem_of_mem_intercalate marked with between | ⟨segment, inside, here⟩
    · exact absurd between (by decide)
    · rcases List.mem_append.1 inside with kept | last
      · rcases mem_removeDots kept with before | member
        · cases before
        · exact unmarked_joinSegments baseFree pathFree member here
      · rw [eq_nil_of_mem_ending last] at here
        cases here

theorem unmarked_join {base reference joined : List Char} (baseFree : '#' ∉ base)
    (referenceFree : '#' ∉ reference) (found : join? base reference = some joined) :
    '#' ∉ joined := by
  obtain ⟨b, isBase, found⟩ := Option.bind_eq_some_iff.1 found
  obtain ⟨r, isReference, found⟩ := Option.bind_eq_some_iff.1 found
  have baseParts := plain_of_parts List.not_mem_nil baseFree isBase
  have parts := plain_of_parts baseParts.scheme referenceFree isReference
  split at found
  · injection found with same
    exact same ▸ referenceFree
  · split at found
    · injection found with same
      exact same ▸ unmarked_text parts
    · split at found
      · injection found with same
        subst same
        refine unmarked_text { baseParts with query := ?_, fragment := parts.fragment }
        dsimp only
        split
        · exact baseParts.query
        · exact parts.query
      · injection found with same
        subst same
        exact unmarked_text { parts with
          authority := baseParts.authority
          path := unmarked_joinPath baseParts.path parts.path }

end Url

namespace Reference

variable {workdir : Place} {document location : String}

private theorem unmarked_fileKey {p : Path} {key : String}
    (workdirFree : ∀ name ∈ workdir, Unmarked name)
    (free : ∀ segment ∈ p.segments, Unmarked segment) (found : fileKey? workdir p = some key) :
    Unmarked key := by
  unfold fileKey? at found
  split at found
  · injection found with same
    subst same
    apply Path.unmarked_placeText
    intro name inside
    rcases Path.mem_of_mem_resolve inside with outer | own
    · exact workdirFree name outer
    · exact free name own
  · cases found

theorem unmarked_locate {key : String} (workdirFree : ∀ name ∈ workdir, Unmarked name)
    (documentFree : Unmarked document) (locationFree : Unmarked location)
    (found : locate? workdir document location = some key) : Unmarked key := by
  unfold locate? at found
  split at found
  · injection found with same
    exact same ▸ documentFree
  · split at found
    · injection found with same
      exact same ▸ locationFree
    · split at found
      · obtain ⟨joined, isJoined, same⟩ := Option.map_eq_some_iff.1 found
        subst same
        rw [Unmarked, String.toList_ofList]
        exact Url.unmarked_join documentFree locationFree isJoined
      · refine unmarked_fileKey workdirFree ?_ found
        intro segment inside
        unfold Path.join at inside
        split at inside
        · exact Path.unmarked_of_mem_segments locationFree inside
        · rcases List.mem_append.1 inside with outer | own
          · exact Path.unmarked_of_mem_segments documentFree (List.dropLast_subset _ outer)
          · exact Path.unmarked_of_mem_segments locationFree own

/-- The document of a reference has no mark in its key when the document that holds the reference has none. -/
theorem unmarked_target {reference : String} {target : Target}
    (workdirFree : ∀ name ∈ workdir, Unmarked name) (documentFree : Unmarked document)
    (found : target? workdir document reference = some target) :
    Unmarked target.document := by
  unfold target? at found
  obtain ⟨key, located, same⟩ := Option.map_eq_some_iff.1 found
  subst same
  refine unmarked_locate workdirFree documentFree ?_ located
  rw [Unmarked, String.toList_ofList]
  exact Text.not_mem_cutAt_fst '#' reference.toList

end Reference

end QueryHooks
