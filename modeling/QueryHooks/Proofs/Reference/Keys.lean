import QueryHooks.Proofs.Path.Route
import QueryHooks.Proofs.Reference.Mark

/-!
The keys of files: absolute paths in which no segment stands for where it lies. Such a key is read back as the
place it was made from, so two files have one key exactly when they lie in one place.
-/

namespace QueryHooks

/-- Whether a directory can have an entry of this name. -/
def IsEntryName (name : String) : Prop :=
  isNameable name = true ∧ '/' ∉ name.toList ∧ name ≠ "" ∧ name ≠ "." ∧ name ≠ ".."

instance (name : String) : Decidable (IsEntryName name) :=
  inferInstanceAs
    (Decidable (isNameable name = true ∧ '/' ∉ name.toList ∧ name ≠ "" ∧ name ≠ "." ∧ name ≠ ".."))

/-- Whether a place can be one: the names on the way are names of entries. -/
def Place.IsActual (place : Place) : Prop := ∀ name ∈ place, IsEntryName name

instance (place : Place) : Decidable place.IsActual :=
  inferInstanceAs (Decidable (∀ name ∈ place, IsEntryName name))

namespace Path

variable {text : String} {place workdir : Place}

/-- A segment that can be a name is the name of an entry, or leads to the parent. -/
theorem name_of_segment {segment : String} (inside : segment ∈ (ofText text).segments)
    (nameable : isNameable segment = true) : segment = ".." ∨ IsEntryName segment := by
  obtain ⟨member, kept⟩ := List.mem_filter.1 inside
  obtain ⟨chars, piece, rfl⟩ := List.mem_map.1 member
  rw [Bool.and_eq_true, bne_iff_ne, bne_iff_ne] at kept
  by_cases up : String.ofList chars = ".."
  · exact .inl up
  · refine .inr ⟨nameable, ?_, kept.1, kept.2, up⟩
    rw [String.toList_ofList]
    exact Text.not_mem_of_mem_splitOn piece

/-- What a text names on the way is the name of an entry, or leads to the parent. -/
theorem name_of_mem_segments (nameable : isNameable text = true) {segment : String}
    (inside : segment ∈ (ofText text).segments) : segment = ".." ∨ IsEntryName segment := by
  refine name_of_segment inside (isNameable_iff.2 fun c here => isNameable_iff.1 nameable c ?_)
  obtain ⟨chars, piece, rfl⟩ := List.mem_map.1 (List.mem_filter.1 inside).1
  rw [String.toList_ofList] at here
  exact Text.subset_of_mem_splitOn piece here

theorem isNameable_ofText (nameable : isNameable text = true) : isNameable (ofText text).text = true := by
  refine isNameable_text fun segment inside => ?_
  rcases name_of_mem_segments nameable inside with rfl | name
  · decide
  · exact name.1

theorem actual_follow {here : Place} (actual : here.IsActual) {segment : String}
    (name : segment = ".." ∨ IsEntryName segment) : (follow here segment).IsActual := by
  rw [follow]
  split
  · exact fun name inside => actual name (List.dropLast_subset _ inside)
  · next other =>
      intro name' inside
      rcases List.mem_append.1 inside with before | this
      · exact actual name' before
      · rw [List.mem_singleton.1 this]
        exact name.resolve_left fun same => other (beq_iff_eq.2 same)

theorem actual_resolve {p : Path} (actual : workdir.IsActual)
    (names : ∀ segment ∈ p.segments, segment = ".." ∨ IsEntryName segment) : (p.resolve workdir).IsActual := by
  have start : Place.IsActual (if p.isAbsolute then [] else workdir) := by
    split
    · exact fun _ inside => by cases inside
    · exact actual
  rw [resolve]
  -- What is left of the path is followed from a place further on, so the induction is over any place to start at.
  revert names start
  generalize (if p.isAbsolute then [] else workdir) = here
  generalize p.segments = segments
  intro names start
  induction segments generalizing here with
  | nil => exact start
  | cons segment rest ih =>
      refine ih _ (fun s inside => names s (List.mem_cons_of_mem _ inside)) ?_
      exact actual_follow start (names segment List.mem_cons_self)

theorem actual_resolve_ofText (actual : workdir.IsActual) (nameable : isNameable text = true) :
    ((ofText text).resolve workdir).IsActual :=
  actual_resolve actual fun _ inside => name_of_mem_segments nameable inside

private theorem originOf_of_ne {c : Char} (other : c ≠ '/') (rest : List Char) :
    originOf ('/' :: c :: rest) = .root := by
  unfold originOf
  split
  · rfl
  · next same => exact absurd (List.cons.inj (List.cons.inj same).2).1 other
  · rfl
  · next none => exact absurd rfl (none _)

theorem toList_placeText (place : Place) :
    (placeText place).toList = '/' :: ['/'].intercalate (place.map String.toList) := by
  have text : placeText place = "/" ++ "/".intercalate place := rfl
  rw [text, String.toList_append, String.toList_intercalate]
  rfl

private theorem originOf_placeText (actual : place.IsActual) : originOf (placeText place).toList = .root := by
  rw [toList_placeText]
  cases place with
  | nil => rfl
  | cons name rest =>
      obtain ⟨_, noSlash, some, _⟩ := actual name List.mem_cons_self
      cases chars : name.toList with
      | nil => exact absurd (String.toList_eq_nil_iff.1 chars) some
      | cons c others =>
          have other : c ≠ '/' := fun same => noSlash (chars ▸ same ▸ List.mem_cons_self)
          rw [List.map_cons, chars]
          cases rest with
          | nil => exact originOf_of_ne other _
          | cons second more => exact originOf_of_ne other _

theorem ofText_placeText (actual : place.IsActual) : ofText (placeText place) = ofPlace place := by
  rw [ofText, originOf_placeText actual, split, toList_placeText, Text.splitOn_cons_self]
  cases place with
  | nil => rfl
  | cons name rest =>
      have pieces : Text.splitOn '/' (['/'].intercalate ((name :: rest).map String.toList)) =
          (name :: rest).map String.toList := by
        refine Text.splitOn_intercalate (List.cons_ne_nil _ _) fun piece inside => ?_
        obtain ⟨own, member, rfl⟩ := List.mem_map.1 inside
        exact (actual own member).2.1
      have names : List.map String.ofList ((name :: rest).map String.toList) = name :: rest := by
        rw [List.map_map]
        exact (List.map_congr_left fun own _ => String.ofList_toList).trans (List.map_id _)
      have kept : ∀ own ∈ name :: rest, (own != "" && own != ".") = true := fun own inside => by
        obtain ⟨_, _, some, other, _⟩ := actual own inside
        rw [Bool.and_eq_true, bne_iff_ne, bne_iff_ne]
        exact ⟨some, other⟩
      rw [pieces, List.map_cons, names]
      exact congrArg (Path.mk .root) (List.filter_eq_self.2 kept)

theorem placeText_inj {place' : Place} (actual : place.IsActual) (actual' : place'.IsActual) :
    placeText place = placeText place' ↔ place = place' := by
  refine ⟨fun same => ?_, congrArg _⟩
  have read := congrArg ofText same
  rw [ofText_placeText actual, ofText_placeText actual'] at read
  exact congrArg segments read

theorem foldl_follow_of_actual (actual : place.IsActual) (here : Place) :
    place.foldl follow here = here ++ place := by
  induction place generalizing here with
  | nil => exact (List.append_nil here).symm
  | cons name rest ih =>
      have other : name ≠ ".." := (actual name List.mem_cons_self).2.2.2.2
      rw [List.foldl_cons, ih fun own inside => actual own (List.mem_cons_of_mem name inside), follow,
        if_neg (by simpa using other), List.append_assoc, List.singleton_append]

/-- A path that is joined to an actual place leads where it leads when it is seen from there. -/
theorem resolve_join_ofPlace (actual : place.IsActual) (inside : Path) :
    ((ofPlace place).join inside).resolve workdir = inside.resolve place := by
  rw [join]
  split
  · next absolute => rw [resolve, resolve, if_pos absolute, if_pos absolute]
  · next relative =>
      have rooted : Path.isAbsolute ⟨.root, place ++ inside.segments⟩ = true := rfl
      rw [ofPlace, resolve, resolve, if_neg relative, if_pos rooted, List.foldl_append,
        foldl_follow_of_actual actual, List.nil_append]

end Path

/-- Whether a text names a file. -/
def IsFile (text : String) : Prop := isNameable text = true ∧ isUrl text = false

instance (text : String) : Decidable (IsFile text) :=
  inferInstanceAs (Decidable (isNameable text = true ∧ isUrl text = false))

theorem Place.IsActual.dropLast {place : Place} (actual : place.IsActual) : IsActual (List.dropLast place) :=
  fun name inside => actual name (List.dropLast_subset _ inside)

theorem isUrl_placeText (place : Place) : isUrl (Path.placeText place) = false := by
  rw [isUrl, Path.toList_placeText]
  rfl

namespace Reference

variable {workdir holder : Place} {source location : String}

theorem documentKey_of_file (isFile : IsFile source) (given : source ≠ "-") :
    documentKey? workdir (some source) = some (Path.placeText ((Path.ofText source).resolve workdir)) := by
  unfold documentKey?
  split
  · next none => cases none
  · next dash => exact absurd (Option.some.inj dash) given
  · next same =>
      cases same
      rw [if_neg (by rw [isFile.2]; decide), fileKey?, if_pos (Path.isNameable_ofText isFile.1)]

/-- The key that a path names from a file in an actual place, which is none if it cannot be a path. -/
theorem locate_of_path (actual : holder.IsActual) (noUrl : isUrl location = false) (some : location ≠ "") :
    locate? workdir (Path.placeText holder) location =
      if isNameable ((Path.ofPlace holder.dropLast).join (Path.ofText location)).text then
        .some (Path.placeText ((Path.ofText location).resolve holder.dropLast))
      else none := by
  have nonempty : ¬ location.isEmpty = true := by simpa using some
  have parent : (Path.ofText (Path.placeText holder)).parent = Path.ofPlace holder.dropLast := by
    rw [Path.ofText_placeText actual]
    rfl
  rw [locate?, if_neg nonempty, if_neg (by rw [noUrl]; decide), if_neg (by rw [isUrl_placeText]; decide),
    parent, fileKey?, Path.resolve_join_ofPlace actual.dropLast]

theorem isNameable_join {inside : Path} (actual : holder.IsActual)
    (names : ∀ segment ∈ inside.segments, isNameable segment = true) :
    isNameable ((Path.ofPlace holder.dropLast).join inside).text = true := by
  refine Path.isNameable_text fun segment here => ?_
  rw [Path.join] at here
  split at here
  · exact names segment here
  · rcases List.mem_append.1 here with outer | own
    · exact (actual.dropLast segment outer).1
    · exact names segment own

/-- From a file in an actual place, the key of another is the text of where it lies, seen from that directory. -/
theorem locate_of_file (actual : holder.IsActual) (isFile : IsFile location) (some : location ≠ "") :
    locate? workdir (Path.placeText holder) location =
      .some (Path.placeText ((Path.ofText location).resolve holder.dropLast)) := by
  have names : ∀ segment ∈ (Path.ofText location).segments, isNameable segment = true := fun segment inside =>
    Path.isNameable_segment (Path.isNameable_ofText isFile.1) inside
  rw [locate_of_path actual isFile.2 some, if_pos (isNameable_join actual names)]

/-- What a reference says of the document that it points into. -/
def locationOf (reference : String) : String := String.ofList (Text.cutAt '#' reference.toList).1

theorem document_of_target (workdir : Place) (document reference : String) :
    (target? workdir document reference).map Target.document = locate? workdir document (locationOf reference) := by
  have whole := Option.map_map Target.document
    (fun key => Target.mk key (String.ofList ((Text.cutAt '#' reference.toList).2.getD [])))
    (locate? workdir document (locationOf reference))
  exact whole.trans Option.map_id'

end Reference

end QueryHooks

/-!
When a location means one document, seen from two. A location without text means the document it stands in, an
address means the same everywhere, and a path leads to one file if the directories it is seen from have in
common what is left of them once the path has climbed.
-/

namespace QueryHooks

namespace Path

variable {text : String} {p : Path} {here there : Place}

/-- A path leads to one place from two directories if it is absolute, or climbs to where they are the same. -/
theorem resolve_eq_iff : p.resolve here = p.resolve there ↔
    p.isAbsolute = true ∨ here.take (here.length - p.route.up) = there.take (there.length - p.route.up) := by
  unfold resolve
  by_cases absolute : p.isAbsolute = true
  · rw [if_pos absolute, if_pos absolute]
    exact ⟨fun _ => .inl absolute, fun _ => rfl⟩
  · rw [if_neg absolute, if_neg absolute, Route.foldl_follow, Route.foldl_follow]
    unfold Route.endFrom
    rw [List.append_cancel_right_eq]
    exact ⟨.inr, fun same => same.resolve_left absolute⟩

end Path

namespace Reference

variable {workdir here there holder : Place} {location key : String}

/-- Whether a location means the same document, seen from files in two places. -/
def MeansSame (here there : Place) (location : String) : Prop :=
  if location = "" then here = there
  else
    isUrl location = true ∨ (Path.ofText location).isAbsolute = true ∨
      here.dropLast.take (here.dropLast.length - (Path.ofText location).route.up) =
        there.dropLast.take (there.dropLast.length - (Path.ofText location).route.up)

instance (here there : Place) (location : String) : Decidable (MeansSame here there location) := by
  unfold MeansSame
  infer_instance

theorem locate_nothing (workdir : Place) (document : String) : locate? workdir document "" = some document :=
  if_pos (by decide)

theorem locate_of_url (workdir : Place) (document : String) (given : location ≠ "") (address : isUrl location = true) :
    locate? workdir document location = some location := by
  have nonempty : ¬ location.isEmpty = true := by simpa using given
  rw [locate?, if_neg nonempty, if_pos address]

/-- The segments of a path that is seen from a file can be names. -/
theorem names_of_locate (actual : holder.IsActual) (noUrl : isUrl location = false) (given : location ≠ "")
    (found : locate? workdir (Path.placeText holder) location = some key) :
    ∀ segment ∈ (Path.ofText location).segments, isNameable segment = true := by
  rw [locate_of_path actual noUrl given] at found
  split at found
  · next nameable =>
      intro segment inside
      refine Path.isNameable_segment nameable ?_
      rw [Path.join]
      split
      · exact inside
      · exact List.mem_append_right _ inside
  · cases found

/-- A location that is seen from one file is seen from another as the same document exactly if it means the same. -/
theorem locate_iff_meansSame (hereActual : here.IsActual) (thereActual : there.IsActual)
    (found : locate? workdir (Path.placeText there) location = some key) :
    locate? workdir (Path.placeText here) location = some key ↔ MeansSame here there location := by
  unfold MeansSame
  by_cases given : location = ""
  · subst given
    rw [locate_nothing] at found
    rw [if_pos rfl, ← Path.placeText_inj hereActual thereActual, locate_nothing, ← found]
    exact Option.some_inj
  · rw [if_neg given]
    cases address : isUrl location with
    | true =>
        rw [locate_of_url _ _ given address] at found ⊢
        exact ⟨fun _ => .inl rfl, fun _ => found⟩
    | false =>
        have names := names_of_locate thereActual address given found
        have actual {holder : Place} (from' : holder.IsActual) :
            ((Path.ofText location).resolve holder.dropLast).IsActual :=
          Path.actual_resolve from'.dropLast fun segment inside => Path.name_of_segment inside (names segment inside)
        rw [locate_of_path thereActual address given, if_pos (isNameable_join thereActual names)] at found
        rw [locate_of_path hereActual address given, if_pos (isNameable_join hereActual names), ← found,
          Option.some_inj, Path.placeText_inj (actual hereActual) (actual thereActual), Path.resolve_eq_iff]
        exact ⟨.inr, fun same => same.resolve_left Bool.false_ne_true⟩

end Reference

end QueryHooks
