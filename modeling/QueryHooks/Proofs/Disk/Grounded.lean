import QueryHooks.Proofs.Disk.Calls

/-!
Disks on which everything stands in a directory, as in any file system. Making the directories along a path
keeps a disk so: every place on the way is a directory then, and stays one whatever files are written.
-/

namespace QueryHooks

namespace Disk

variable {disk disk' disk'' : Disk} {workdir place here : Place} {segments : List String}

/-- Whether everything on a disk stands in a directory, and the working directory is one. -/
structure Grounded (disk : Disk) (workdir : Place) : Prop where
  parents : ∀ place, (disk.at? place).isSome = true → disk.isDirectory place.dropLast = true
  workdir : disk.isDirectory workdir = true

theorem Grounded.of_entries (parents : ∀ entry ∈ disk.entries, disk.isDirectory entry.1.dropLast = true)
    (isDirectory : disk.isDirectory workdir = true) : disk.Grounded workdir where
  parents := by
    intro place stands
    by_cases root : place = []
    · rw [root]
      rfl
    · rw [at_of_ne_nil root] at stands
      obtain ⟨e, there⟩ := Option.isSome_iff_exists.1 stands
      obtain ⟨before, after, whole, -⟩ := List.lookup_eq_some_iff.1 there
      exact parents (place, e) (whole ▸ List.mem_append_right _ List.mem_cons_self)
  workdir := isDirectory

/-- Whether all directories of a disk are directories of another. -/
def KeepsDirectories (disk disk' : Disk) : Prop :=
  ∀ place, disk.isDirectory place = true → disk'.isDirectory place = true

theorem KeepsDirectories.trans (first : disk.KeepsDirectories disk') (second : disk'.KeepsDirectories disk'') :
    disk.KeepsDirectories disk'' := fun place isDirectory => second place (first place isDirectory)

/-- Whether segments lead from one directory to the next. -/
def Leads (disk : Disk) (here : Place) : List String → Prop
  | [] => True
  | segment :: rest =>
      disk.isDirectory (Path.follow here segment) = true ∧ disk.Leads (Path.follow here segment) rest

theorem Leads.mono (keeps : disk.KeepsDirectories disk') (leads : disk.Leads here segments) :
    disk'.Leads here segments := by
  induction segments generalizing here with
  | nil => trivial
  | cons segment rest ih => exact ⟨keeps _ leads.1, ih leads.2⟩

theorem Leads.isDirectory (leads : disk.Leads here segments) (start : disk.isDirectory here = true) :
    disk.isDirectory (segments.foldl Path.follow here) = true := by
  induction segments generalizing here with
  | nil => exact start
  | cons segment rest ih => exact ih leads.2 leads.1

theorem isDirectory_iff : disk.isDirectory place = true ↔ disk.at? place = some .directory := beq_iff_eq

theorem Leads.missingAlong (leads : disk.Leads here segments) : disk.missingAlong here segments = 0 := by
  induction segments generalizing here with
  | nil => rfl
  | cons segment rest ih =>
      rw [Disk.missingAlong, isDirectory_iff.1 leads.1, Option.isSome_some, if_pos rfl]
      exact ih leads.2

theorem addDirectory_eq_put (nothing : disk.at? place = none) :
    place ≠ [] ∧ disk.addDirectory place = disk.put place .directory := by
  have inside : place ≠ [] := by
    rintro rfl
    cases nothing
  rw [at_of_ne_nil inside] at nothing
  exact ⟨inside, congrArg Disk.mk (go_of_none nothing).symm⟩

theorem entry_addDirectory_of_none (nothing : disk.at? place = none) (other : Place) :
    (disk.addDirectory place).at? other = if other = place then some .directory else disk.at? other := by
  obtain ⟨inside, same⟩ := addDirectory_eq_put nothing
  rw [same, entry_put inside]

/-- A directory that is made where nothing stands, in another directory, is kept in one. -/
theorem Grounded.addDirectory (grounded : disk.Grounded workdir) (nothing : disk.at? place = none)
    (parent : disk.isDirectory place.dropLast = true) :
    disk.KeepsDirectories (disk.addDirectory place) ∧ (disk.addDirectory place).Grounded workdir := by
  have keeps : disk.KeepsDirectories (disk.addDirectory place) := by
    intro other isDirectory
    rw [isDirectory_iff] at isDirectory ⊢
    rw [entry_addDirectory_of_none nothing, isDirectory, ite_self]
  refine ⟨keeps, fun other stands => ?_, keeps _ grounded.workdir⟩
  rw [entry_addDirectory_of_none nothing] at stands
  split at stands
  · next here => exact keeps _ (here ▸ parent)
  · exact keeps _ (grounded.parents other stands)

/-- What is looked at on a way is what stands there, if nothing lies in a new directory yet. -/
theorem entryAlong_eq {isNew : Bool} (bare : isNew = true → ∀ name, disk.at? (here ++ [name]) = none)
    (segment : String) :
    disk.entryAlong? isNew segment (Path.follow here segment) = disk.at? (Path.follow here segment) := by
  unfold entryAlong?
  split
  · next deeper =>
      rw [Bool.and_eq_true, bne_iff_ne] at deeper
      rw [Path.follow, if_neg (by simpa using deeper.2), bare deeper.1 segment]
  · rfl

/-- One step along a way: it ends in a directory, and in a bare one if nothing was there. -/
theorem addAlong_grounded {isNew isLast : Bool} {segment : String} (grounded : disk.Grounded workdir)
    (start : disk.isDirectory here = true)
    (bare : isNew = true → ∀ name, disk.at? (here ++ [name]) = none)
    (added : disk.addAlong isNew segment (Path.follow here segment) isLast = .ok disk') :
    isTooLong segment = false ∧ disk.KeepsDirectories disk' ∧ disk'.Grounded workdir ∧
      disk'.isDirectory (Path.follow here segment) = true ∧
      ((disk.entryAlong? isNew segment (Path.follow here segment)).isNone = true →
        ∀ name, disk'.at? (Path.follow here segment ++ [name]) = none) := by
  rw [entryAlong_eq bare]
  unfold addAlong at added
  rw [entryAlong_eq bare] at added
  split at added
  · cases added
  next short =>
  refine ⟨Bool.eq_false_iff.2 short, ?_⟩
  split at added
  · cases added
  · next isDirectory =>
      cases added
      refine ⟨fun _ => id, grounded, isDirectory_iff.2 isDirectory, fun none => ?_⟩
      rw [isDirectory] at none
      cases none
  next nothing =>
  cases added
  -- The parent of a directory is there, so the way leads on to a new place in it.
  have isName : segment ≠ ".." := by
    rintro rfl
    have parent := grounded.parents here (isDirectory_iff.1 start ▸ rfl)
    rw [isDirectory_iff] at parent
    rw [Path.follow, if_pos (beq_self_eq_true _), parent] at nothing
    cases nothing
  have deeper : Path.follow here segment = here ++ [segment] := by
    rw [Path.follow, if_neg (by simpa using isName)]
  rw [deeper] at nothing ⊢
  obtain ⟨keeps, groundedAfter⟩ := grounded.addDirectory nothing (by
    rw [List.dropLast_concat]
    exact start)
  refine ⟨keeps, groundedAfter, ?_, fun _ name => ?_⟩
  · rw [isDirectory_iff, entry_addDirectory_of_none nothing, if_pos rfl]
  · rw [entry_addDirectory_of_none nothing, if_neg (by simp)]
    by_contra some
    have parent := grounded.parents _ (Option.isSome_iff_ne_none.2 some)
    rw [List.dropLast_concat, isDirectory_iff, nothing] at parent
    cases parent

end Disk

namespace Host

variable {host : Host} {m m' : Machine} {workdir here place : Place} {segments : List String} {isNew : Bool}

/-- Directories that are made along segments from a directory, which may be a new one. -/
theorem makeAlong_grounded (grounded : m.disk.Grounded workdir) (start : m.disk.isDirectory here = true)
    (bare : isNew = true → ∀ name, m.disk.at? (here ++ [name]) = none)
    (done : host.makeAlong isNew here segments m = (m', .ok place)) :
    m.disk.KeepsDirectories m'.disk ∧ m'.disk.Grounded workdir ∧ m'.disk.Leads here segments ∧
      ∀ segment ∈ segments, Disk.isTooLong segment = false := by
  induction segments generalizing isNew here m with
  | nil =>
      cases done
      exact ⟨fun _ => id, grounded, trivial, fun _ impossible => absurd impossible List.not_mem_nil⟩
  | cons segment rest ih =>
      rw [makeAlong] at done
      split at done
      · cases done
      next next taken =>
      obtain ⟨short, keepsFirst, groundedFirst, startNext, bareNext⟩ :=
        Disk.addAlong_grounded grounded start bare (call_ok taken).1
      obtain ⟨keeps, groundedAfter, leads, shortRest⟩ := ih groundedFirst startNext bareNext done
      exact ⟨keepsFirst.trans keeps, groundedAfter, ⟨keeps _ startNext, leads⟩,
        List.forall_mem_cons.2 ⟨short, shortRest⟩⟩

end Host

end QueryHooks
