import Mathlib.Data.List.TakeDrop
import QueryHooks.Path
import QueryHooks.Proofs.Text.Pieces

/-! The parts of a path: what its text says of its segments, and where its last segment leads. -/

namespace QueryHooks

variable {p : Path}

theorem isNameable_iff {text : String} : isNameable text = true ↔ ∀ c ∈ text.toList, isPathChar c = true := by
  rw [isNameable, List.all_eq_true]

namespace Path

theorem isNameable_segment (nameable : isNameable p.text = true) {segment : String}
    (inside : segment ∈ p.segments) : isNameable segment = true := by
  have some : (!p.isAbsolute && p.segments.isEmpty) = false := by
    rw [List.isEmpty_eq_false_iff.2 (List.ne_nil_of_mem inside), Bool.and_false]
  rw [text, some, if_neg (by decide)] at nameable
  refine isNameable_iff.2 fun c here => isNameable_iff.1 nameable c ?_
  rw [String.toList_append, String.toList_intercalate]
  exact List.mem_append_right _ (Text.subset_intercalate (List.mem_map_of_mem inside) here)

/-- A path of segments that can be names can be a path, whatever its origin. -/
theorem isNameable_text (segments : ∀ segment ∈ p.segments, isNameable segment = true) :
    isNameable p.text = true := by
  have marks : ∀ c ∈ p.origin.text.toList ++ "/".toList ++ ".".toList, isPathChar c = true := by
    cases p.origin <;> decide
  refine isNameable_iff.2 fun c here => ?_
  rw [text] at here
  split at here
  · exact marks c (List.mem_append_right _ here)
  · rw [String.toList_append, String.toList_intercalate, List.mem_append] at here
    rcases here with start | within
    · exact marks c (List.mem_append_left _ (List.mem_append_left _ start))
    rcases Text.mem_of_mem_intercalate within with between | ⟨piece, inside, member⟩
    · exact marks c (List.mem_append_left _ (List.mem_append_right _ between))
    · obtain ⟨segment, known, rfl⟩ := List.mem_map.1 inside
      exact isNameable_iff.1 (segments segment known) c member

theorem isNameable_parent (nameable : isNameable p.text = true) : isNameable p.parent.text = true :=
  isNameable_text fun _ inside => isNameable_segment nameable (List.dropLast_subset _ inside)

theorem isNameable_name (nameable : isNameable p.text = true) : isNameable p.name = true := by
  rw [name]
  cases last : p.segments.getLast? with
  | none => rfl
  | some segment => exact isNameable_segment nameable (List.mem_of_getLast? last)

/-- A path that has a name leads to that name in the place of its parent. -/
theorem resolve_eq_concat (some : p.name ≠ "") (ordinary : p.name ≠ "..") (workdir : Place) :
    p.resolve workdir = p.parent.resolve workdir ++ [p.name] := by
  have whole : p.segments = p.parent.segments ++ [p.name] := by
    rcases List.eq_nil_or_concat p.segments with none | ⟨start, last, whole⟩
    · exact absurd (by rw [name, none]; rfl) some
    · rw [parent, name, whole, List.concat_eq_append, List.dropLast_concat, List.getLast?_concat]
      rfl
  have absolute : p.parent.isAbsolute = p.isAbsolute := rfl
  rw [resolve, whole, List.foldl_append, List.foldl_cons, List.foldl_nil, resolve, absolute, follow,
    if_neg (by simpa using ordinary)]

end Path

end QueryHooks

/-!
Walks along the segments of a path, wherever they start: a walk leaves some names of the place it
starts from and then enters others.
-/

namespace QueryHooks.Path

/-- How many names a walk leaves, and which it enters after that. -/
structure Route where
  up : Nat
  names : List String
deriving DecidableEq, Repr

namespace Route

variable {segments : List String}

def start : Route := ⟨0, []⟩

def step (r : Route) (segment : String) : Route :=
  if segment == ".." then
    if r.names.isEmpty then ⟨r.up + 1, []⟩ else ⟨r.up, r.names.dropLast⟩
  else ⟨r.up, r.names ++ [segment]⟩

def ofSegments (segments : List String) : Route := segments.foldl step start

/-- Where a route ends. -/
def endFrom (r : Route) (here : Place) : Place := here.take (here.length - r.up) ++ r.names

theorem endFrom_step (r : Route) (here : Place) (segment : String) :
    (r.step segment).endFrom here = follow (r.endFrom here) segment := by
  rw [step, follow]
  cases segment == ".." with
  | false => simp only [Bool.false_eq_true, if_false, endFrom, List.append_assoc]
  | true =>
      simp only [if_true, endFrom]
      rcases List.eq_nil_or_concat r.names with none | ⟨names, last, whole⟩
      · have shorter : here.length - (r.up + 1) = here.length - r.up - 1 := by omega
        rw [none, List.isEmpty_nil, if_pos rfl, List.append_nil, List.append_nil, shorter,
          List.dropLast_eq_take, List.take_take, List.length_take]
        congr 1
        omega
      · have some : r.names.isEmpty = false := by simp [whole]
        rw [some, if_neg (by decide), whole, List.concat_eq_append, List.dropLast_concat,
          ← List.append_assoc, List.dropLast_concat]

theorem foldl_follow (segments : List String) (here : Place) :
    segments.foldl follow here = (ofSegments segments).endFrom here := by
  have further (r : Route) :
      segments.foldl follow (r.endFrom here) = (segments.foldl step r).endFrom here := by
    induction segments generalizing r with
    | nil => rfl
    | cons segment rest ih => rw [List.foldl_cons, List.foldl_cons, ← endFrom_step, ih]
  have begins : start.endFrom here = here := by simp [endFrom, start]
  rw [ofSegments, ← further start, begins]

theorem ofSegments_concat (segments : List String) (segment : String) :
    ofSegments (segments ++ [segment]) = (ofSegments segments).step segment := by
  rw [ofSegments, List.foldl_append]
  rfl

theorem step_name {r : Route} {segment : String} (isName : segment ≠ "..") :
    r.step segment = ⟨r.up, r.names ++ [segment]⟩ := by
  rw [step, if_neg (by simpa using isName)]

theorem exists_head?_ne (names : List String) : ∃ name, names.head? ≠ some name := by
  by_cases same : names.head? = some "a"
  · exact ⟨"b", by rw [same]; decide⟩
  · exact ⟨"a", same⟩

/-- A walk that climbs from a directory of the root directory forgets where it started. -/
theorem endFrom_singleton {r : Route} (climbs : 0 < r.up) (name : String) : r.endFrom [name] = r.names := by
  have gone : [name].length - r.up = 0 := by
    rw [List.length_singleton]
    omega
  rw [endFrom, gone, List.take_zero, List.nil_append]

/-- A walk that climbs does not stay below every place it can start from. -/
theorem exists_not_below {r : Route} (climbs : 0 < r.up) :
    ∃ here : Place, ¬ here <+: r.endFrom here := by
  obtain ⟨name, different⟩ := exists_head?_ne r.names
  refine ⟨[name], fun below => ?_⟩
  rw [endFrom_singleton climbs] at below
  obtain ⟨rest, whole⟩ := below
  rw [← whole] at different
  exact different rfl

/-- One step back from the end of a walk leads to its start, wherever that is, only if the walk enters one directory. -/
theorem dropLast_endFrom_iff {r : Route} :
    (∀ here : Place, (r.endFrom here).dropLast = here) ↔ r.up = 0 ∧ r.names.length = 1 := by
  constructor
  · intro back
    have level : r.up = 0 := by
      by_contra climbs
      obtain ⟨name, different⟩ := exists_head?_ne r.names.dropLast
      have same := back [name]
      rw [endFrom_singleton (Nat.pos_of_ne_zero climbs)] at same
      rw [same] at different
      exact different rfl
    refine ⟨level, ?_⟩
    have lengths := congrArg List.length (back ["a"])
    rw [endFrom, level, List.length_dropLast, List.length_append] at lengths
    simpa using lengths
  · rintro ⟨level, single⟩ here
    obtain ⟨name, names⟩ := List.length_eq_one_iff.1 single
    rw [endFrom, level, names, Nat.sub_zero, List.take_length, List.dropLast_concat]

end Route

/-- The way along the segments of a path. -/
def route (p : Path) : Route := Route.ofSegments p.segments

end QueryHooks.Path
