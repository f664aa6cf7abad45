import QueryHooks.Proofs.Path.Route
import QueryHooks.Proofs.Plan.Places
import QueryHooks.Proofs.Write.Replace

/-!
Writing files one after the other. The files before the first that the host refuses a call for are written,
each with the last text that is planned for its place; every other file stays as it is.
-/

namespace QueryHooks.Write

variable {m m' : Machine} {host : Host} {workdir : Place} {outDir : String} {p : Path}
  {contents : String} {failure : Failure} {listener : Noted.Listener} {planned : List PlannedFile}

theorem file_ok (done : file host workdir p contents m = (m', .ok ())) :
    m'.disk.file? =
        Function.update m.disk.file? (p.resolve workdir) (some (Text.Utf8.encode contents.toList)) ∧
      m.disk.Covers m'.disk ∧ m.Went m' := by
  unfold file at done
  split at done
  · cases done
  split at done
  · cases done
  split at done
  · cases done
  next made directory makes =>
  obtain ⟨rfl, sameFiles, coversMade, wentMade⟩ := Host.makeDirectory_ok makes
  obtain ⟨⟨named, ordinary⟩, written, covers, went⟩ := replace_ok done
  refine ⟨?_, coversMade.trans covers, wentMade.trans went⟩
  rw [written, sameFiles, Path.resolve_eq_concat named ordinary]

theorem file_error (nameable : isNameable p.text = true)
    (whole : Text.Half.areWhole contents.toList = true)
    (shallow : p.parent.isTooLong = false → m.disk.missing workdir p.parent ≤ maxMissing)
    (failed : file host workdir p contents m = (m', .error failure)) :
    (∃ refusal, failure = .output p.text refusal) ∧ m.Broke m' ∧ m.Spared m' := by
  have few : (!p.parent.isTooLong && decide (maxMissing < m.disk.missing workdir p.parent)) = false := by
    cases long : p.parent.isTooLong with
    | true => rfl
    | false => simpa using shallow long
  unfold file at failed
  rw [Path.isNameable_parent nameable, if_neg (by decide), few, if_neg (by decide)] at failed
  split at failed
  · next made refusal makes =>
      cases failed
      obtain ⟨sameFiles, broke⟩ := Host.makeDirectory_error makes
      exact ⟨⟨refusal, rfl⟩, broke, fun place => .inl (congrFun sameFiles place)⟩
  · next made directory makes =>
      obtain ⟨-, sameFiles, -, went⟩ := Host.makeDirectory_ok makes
      obtain ⟨refused, broke, spared⟩ := replace_error (Path.isNameable_name nameable) whole failed
      refine ⟨refused, went.broke broke, fun place => ?_⟩
      rw [← sameFiles]
      exact spared place

/--
What a file asks beside what the host is asked for: a path and a text that can be encoded, and not too many
directories that are missing.
-/
structure Ordinary (disk : Disk) (workdir : Place) (outDir : String) (planned : PlannedFile) : Prop where
  nameable : isNameable (target outDir planned).text = true
  whole : Text.Half.areWhole planned.contents.toList = true
  shallow : (target outDir planned).parent.isTooLong = false →
    disk.missing workdir (target outDir planned).parent ≤ maxMissing

instance (disk : Disk) (workdir : Place) (outDir : String) (planned : PlannedFile) :
    Decidable (Ordinary disk workdir outDir planned) :=
  decidable_of_iff
    (isNameable (target outDir planned).text = true ∧ Text.Half.areWhole planned.contents.toList = true ∧
      ((target outDir planned).parent.isTooLong = false →
        disk.missing workdir (target outDir planned).parent ≤ maxMissing))
    ⟨fun ⟨nameable, whole, shallow⟩ => ⟨nameable, whole, shallow⟩,
      fun ordinary => ⟨ordinary.nameable, ordinary.whole, ordinary.shallow⟩⟩

theorem Ordinary.mono {disk disk' : Disk} {file : PlannedFile} (ordinary : Ordinary disk workdir outDir file)
    (covers : disk.Covers disk') : Ordinary disk' workdir outDir file where
  nameable := ordinary.nameable
  whole := ordinary.whole
  shallow := fun short => Nat.le_trans (covers.missingAlong_le _ _) (ordinary.shallow short)

/-- How many files come before the first that a call of the work is refused for. -/
def firstRefused (host : Host) (workdir : Place) (outDir : String) : List PlannedFile → Machine → Nat
  | [], _ => 0
  | planned :: rest, m =>
      let next := (file host workdir (target outDir planned) planned.contents m).1
      if m.Broke next then 0 else firstRefused host workdir outDir rest next + 1

/-- The last of the texts that are planned for a place. -/
def latest? (workdir : Place) (outDir : String) (planned : List PlannedFile) (place : Place) : Option String :=
  (planned.reverse.find? (·.place workdir outDir == place)).map (·.contents)

/-- What files hold once others are written over them. -/
def after (before : Place → Option (List UInt8)) (workdir : Place) (outDir : String)
    (planned : List PlannedFile) (place : Place) : Option (List UInt8) :=
  match latest? workdir outDir planned place with
  | some contents => some (Text.Utf8.encode contents.toList)
  | none => before place

theorem after_cons (before : Place → Option (List UInt8)) (first : PlannedFile) (rest : List PlannedFile) :
    after before workdir outDir (first :: rest) =
      after (Function.update before (first.place workdir outDir)
        (some (Text.Utf8.encode first.contents.toList))) workdir outDir rest := by
  funext place
  rw [after, after, latest?, latest?, List.reverse_cons, List.find?_append]
  cases rest.reverse.find? (·.place workdir outDir == place) with
  | some later => rfl
  | none =>
      rw [Option.none_or, List.find?_singleton, Function.update_apply]
      by_cases here : place = first.place workdir outDir
      · rw [if_pos here, if_pos (beq_iff_eq.2 here.symm)]
        rfl
      · rw [if_neg here, if_neg fun same => here (beq_iff_eq.1 same).symm]

/-- A course that ends without failure has written all files, in order. -/
theorem written_course {paths : List Path} {planned : List PlannedFile} {m : Machine}
    {write : Path → String → Machine → Machine × Except Failure Unit}
    (done : (course write listener outDir planned m).written = .ok paths) :
    paths = planned.map (target outDir) := by
  induction planned generalizing m paths with
  | nil => exact (Except.ok.inj done).symm
  | cons first rest ih =>
      rw [course] at done
      dsimp only at done
      split at done
      · cases done
      · split at done
        · cases done
        · next next written =>
            cases below : (course write listener outDir rest _).written with
            | error failure => rw [below] at done; cases done
            | ok others =>
                rw [below] at done
                rw [← Except.ok.inj done, ih below]
                rfl

/-- What a course of writing leaves, and what it answers, if so many files come before a refusal. -/
structure Reaches (workdir : Place) (outDir : String) (planned : List PlannedFile) (m : Machine)
    (reached : Nat) (outcome : Outcome) : Prop where
  le_length : reached ≤ planned.length
  files : ∀ place,
    outcome.disk.file? place = after m.disk.file? workdir outDir (planned.take reached) place ∨
      (after m.disk.file? workdir outDir (planned.take reached) place = none ∧
        outcome.machine.LeftBehind place)
  all : reached = planned.length → outcome.written = .ok (planned.map (target outDir))
  refused : ∀ failed, planned[reached]? = some failed →
    ∃ refusal, outcome.written = .error (.output (target outDir failed).text refusal)

theorem reaches_course (m : Machine) (ordinary : ∀ file ∈ planned, Ordinary m.disk workdir outDir file)
    (takes : ∀ file ∈ planned, listener (note (target outDir file)) = none) :
    Reaches workdir outDir planned m (firstRefused host workdir outDir planned m)
      (course (file host workdir) listener outDir planned m) := by
  induction planned generalizing m with
  | nil => exact ⟨Nat.le_refl 0, fun _ => .inl rfl, fun _ => rfl, fun _ impossible => by cases impossible⟩
  | cons first rest ih =>
      have ordinaryFirst := ordinary first List.mem_cons_self
      generalize written : file host workdir (target outDir first) first.contents m = outcome
      obtain ⟨next, failure | _⟩ := outcome
      -- The first file is refused: nothing before it was to be written, and its temporary file is all that may be left.
      · obtain ⟨⟨refusal, same⟩, broke, spared⟩ :=
          file_error ordinaryFirst.nameable ordinaryFirst.whole ordinaryFirst.shallow written
        have reached : firstRefused host workdir outDir (first :: rest) m = 0 := by
          rw [firstRefused, written]
          exact if_pos broke
        have ended : course (file host workdir) listener outDir (first :: rest) m = ⟨next, [], .error failure⟩ := by
          simp only [course, written]
        rw [reached, ended]
        refine ⟨Nat.zero_le _, spared, (absurd · (Nat.succ_ne_zero _).symm), fun failed here => ?_⟩
        cases here
        exact ⟨refusal, congrArg Except.error same⟩
      -- It is written: the others are as ordinary on the disk that it leaves, so the run from there is one file behind.
      · obtain ⟨files, covers, went⟩ := file_ok written
        have later := ih next (fun file inside => (ordinary file (List.mem_cons_of_mem _ inside)).mono covers)
          fun file inside => takes file (List.mem_cons_of_mem _ inside)
        have reached : firstRefused host workdir outDir (first :: rest) m =
            firstRefused host workdir outDir rest next + 1 := by
          rw [firstRefused, written]
          exact if_neg went.not_broke
        have goesOn : course (file host workdir) listener outDir (first :: rest) m =
            let outcome := course (file host workdir) listener outDir rest next
            ⟨outcome.machine, note (target outDir first) :: outcome.notes,
              outcome.written.map (target outDir first :: ·)⟩ := by
          simp only [course, written, takes first List.mem_cons_self]
        rw [reached, goesOn]
        refine ⟨Nat.succ_le_succ later.le_length, fun place => ?_, fun all => ?_, fun failed here => ?_⟩
        · rw [List.take_succ_cons, after_cons, PlannedFile.place, ← files]
          exact later.files place
        · simp only [later.all (Nat.succ.inj all)]
          rfl
        · obtain ⟨refusal, same⟩ := later.refused failed here
          refine ⟨refusal, ?_⟩
          simp only [same]
          rfl

/--
Writing reaches all files, or those before the first that the host refuses a call for: their places hold the
last texts planned for them, and no other file changes. What can be there in addition is a temporary file that
the host did not let go of.
-/
theorem files_reaches (host : Host) (listener : Noted.Listener) (disk : Disk) (workdir : Place) (outDir : String)
    (planned : List PlannedFile) (ordinary : ∀ file ∈ planned, Ordinary disk workdir outDir file)
    (takes : ∀ file ∈ planned, listener (note (target outDir file)) = none) :
    Reaches workdir outDir planned ⟨disk, []⟩ (firstRefused host workdir outDir planned ⟨disk, []⟩)
      (files listener disk workdir outDir planned host) :=
  reaches_course ⟨disk, []⟩ ordinary takes

/-- A host on which no file can be moved to one place. -/
private def guarding (guarded : Place) : Host where
  refuses := fun _ made =>
    match made with
    | .rename _ place => if place = guarded then some (.other 5 "Input/output error") else none
    | _ => none

/-- Two files for one place, and one in a directory of its own. -/
private def twice : List PlannedFile := [⟨"a.ts", "one"⟩, ⟨"./a.ts", "two"⟩, ⟨"b/c.ts", "three"⟩]

theorem twice_reaches :
    let host := guarding ["out", "b", "c.ts"]
    let outcome := files .open .empty [] "out" twice host
    firstRefused host [] "out" twice ⟨.empty, []⟩ = 2 ∧
      outcome.disk.file? ["out", "a.ts"] = some (Text.Utf8.encode "two".toList) ∧
      ∃ refusal, outcome.written = .error (.output "out/b/c.ts" refusal) := by
  have reached : firstRefused (guarding ["out", "b", "c.ts"]) [] "out" twice ⟨.empty, []⟩ = 2 := by
    with_unfolding_all rfl
  have reaches := files_reaches (guarding ["out", "b", "c.ts"]) .open .empty [] "out" twice (by decide) (by decide)
  rw [reached] at reaches
  refine ⟨reached, ?_, reaches.refused _ rfl⟩
  rcases reaches.files ["out", "a.ts"] with written | ⟨absent, -⟩
  · rw [written]
    with_unfolding_all rfl
  · cases absent

/-- A host on which a file can neither be moved nor removed. -/
private def stubborn : Host where
  refuses := fun _ made =>
    match made with
    | .rename _ _ => some (.other 5 "Input/output error")
    | .remove _ => some (.other 1 "Operation not permitted")
    | _ => none

/-- A text with half a character is no refusal, and a temporary file can stay. -/
theorem not_reaches_exactly :
    (files .open .empty [] "out" [⟨"a.ts", String.ofList [Text.Half.ofUnit 0xD800]⟩]).written =
        .error .unexpected ∧
      firstRefused stubborn [] "out" [⟨"a.ts", "one"⟩] ⟨.empty, []⟩ = 0 ∧
      ∃ place, Disk.empty.file? place = none ∧
        (files .open .empty [] "out" [⟨"a.ts", "one"⟩] stubborn).disk.file? place =
          some (Text.Utf8.encode "one".toList) :=
  ⟨by with_unfolding_all rfl, by with_unfolding_all rfl, ["out", temporaryName "a.ts" 0], rfl,
    by with_unfolding_all rfl⟩

end QueryHooks.Write
