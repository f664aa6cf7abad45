import Mathlib.Logic.Function.Basic
import QueryHooks.Host

/-!
The regular files of a disk, as a map from places to bytes, and what each change of a disk does to it:
making a directory changes no file, and the other changes only files at the places they name. Beside
that, only what stands at the place of a removal or at the source of a renaming goes away.
-/

namespace QueryHooks

/-- The bytes of a regular file. -/
def Entry.octets? : Entry → Option (List UInt8)
  | .directory => none
  | .file octets => some octets

namespace Disk

variable {disk disk' : Disk} {place source directory : Place} {octets : List UInt8} {name : String}

/-- The bytes of the regular file at a place. -/
def file? (disk : Disk) (place : Place) : Option (List UInt8) := (disk.at? place).bind Entry.octets?

/-- Whether something stands on another disk wherever it does on this one. -/
def Covers (disk disk' : Disk) : Prop :=
  ∀ place, (disk.at? place).isSome = true → (disk'.at? place).isSome = true

theorem Covers.refl (disk : Disk) : disk.Covers disk := fun _ => id

theorem Covers.trans {disk'' : Disk} (first : disk.Covers disk') (second : disk'.Covers disk'') :
    disk.Covers disk'' := fun place stands => second place (first place stands)

theorem at_of_ne_nil (inside : place ≠ []) : disk.at? place = disk.entries.lookup place := by
  rw [at?, if_neg (by simpa using inside)]

theorem at_of_file (isFile : disk.file? place = some octets) : disk.at? place = some (.file octets) := by
  obtain ⟨e, there, same⟩ := Option.bind_eq_some_iff.1 isFile
  cases e with
  | directory => cases same
  | file held => rw [there, Option.some.inj same]

theorem ne_nil_of_file (isFile : (disk.file? place).isSome = true) : place ≠ [] := by
  rintro rfl
  cases isFile

theorem lookup_cons (p : Place) (e : Entry) (rest : List (Place × Entry)) (other : Place) :
    ((p, e) :: rest).lookup other = if other = p then some e else rest.lookup other := by
  rw [List.lookup_cons]
  by_cases same : other = p
  · rw [same, beq_self_eq_true, if_pos rfl]
  · rw [beq_false_of_ne same, if_neg same]

theorem lookup_go (place : Place) (e : Entry) (entries : List (Place × Entry)) (other : Place) :
    (put.go place e entries).lookup other = if other = place then some e else entries.lookup other := by
  induction entries with
  | nil => exact lookup_cons place e [] other
  | cons head rest ih =>
      obtain ⟨p, old⟩ := head
      rw [put.go]
      split
      · next here =>
          rw [eq_of_beq here, lookup_cons, lookup_cons]
          split <;> rfl
      · next apart =>
          rw [lookup_cons, lookup_cons, ih]
          by_cases same : other = p
          · rw [if_pos same, if_pos same, if_neg fun equal => apart (beq_iff_eq.2 (same ▸ equal))]
          · rw [if_neg same, if_neg same]

theorem entry_put (inside : place ≠ []) (e : Entry) (other : Place) :
    (disk.put place e).at? other = if other = place then some e else disk.at? other := by
  by_cases root : other = []
  · rw [root, if_neg inside.symm]
    rfl
  · rw [at_of_ne_nil root, at_of_ne_nil root]
    exact lookup_go place e disk.entries other

theorem go_of_none {e : Entry} {entries : List (Place × Entry)} (nothing : entries.lookup place = none) :
    put.go place e entries = entries ++ [(place, e)] := by
  induction entries with
  | nil => rfl
  | cons head rest ih =>
      obtain ⟨p, old⟩ := head
      have later : place ≠ p ∧ rest.lookup place = none := by
        rw [lookup_cons] at nothing
        split at nothing
        · cases nothing
        · next apart => exact ⟨apart, nothing⟩
      rw [put.go, if_neg fun here => later.1 (eq_of_beq here).symm, ih later.2, List.cons_append]

theorem go_of_lookup {e : Entry} {entries : List (Place × Entry)} (there : entries.lookup place = some e) :
    put.go place e entries = entries := by
  induction entries with
  | nil => cases there
  | cons head rest ih =>
      obtain ⟨p, old⟩ := head
      rw [lookup_cons] at there
      by_cases here : place = p
      · rw [if_pos here] at there
        rw [put.go, if_pos (beq_iff_eq.2 here.symm), Option.some.inj there]
      · rw [if_neg here] at there
        rw [put.go, if_neg fun same => here (eq_of_beq same).symm, ih there]

theorem go_go (place : Place) (e e' : Entry) (entries : List (Place × Entry)) :
    put.go place e' (put.go place e entries) = put.go place e' entries := by
  induction entries with
  | nil => simp only [put.go, beq_self_eq_true, if_true]
  | cons head rest ih =>
      obtain ⟨p, old⟩ := head
      rw [put.go]
      split
      · next here => rw [put.go, if_pos here, put.go, if_pos here]
      · next apart => rw [put.go, if_neg apart, put.go, if_neg apart, ih]

theorem go_comm {other : Place} (apart : place ≠ other) (e e' : Entry) {entries : List (Place × Entry)}
    (there : (entries.lookup place).isSome = true) :
    put.go other e' (put.go place e entries) = put.go place e (put.go other e' entries) := by
  induction entries with
  | nil => cases there
  | cons head rest ih =>
      obtain ⟨p, old⟩ := head
      rw [lookup_cons] at there
      by_cases here : p = place
      · have elsewhere : ¬ (p == other) = true := fun same => apart (here.symm.trans (eq_of_beq same))
        rw [put.go, if_pos (beq_iff_eq.2 here), put.go, if_neg elsewhere, put.go, if_neg elsewhere, put.go,
          if_pos (beq_iff_eq.2 here)]
      · rw [if_neg fun same => here same.symm] at there
        have later : ¬ (p == place) = true := fun same => here (eq_of_beq same)
        rw [put.go, if_neg later, put.go, put.go]
        split
        · rw [put.go, if_neg later]
        · rw [put.go, if_neg later, ih there]

/-- Putting what is there already changes nothing. -/
theorem put_eq_self (inside : place ≠ []) {e : Entry} (there : disk.at? place = some e) : disk.put place e = disk :=
  congrArg Disk.mk (go_of_lookup (at_of_ne_nil inside ▸ there))

theorem put_put (place : Place) (e e' : Entry) : (disk.put place e).put place e' = disk.put place e' :=
  congrArg Disk.mk (go_go place e e' disk.entries)

/-- Of two places the one where something stands can be put first or last. -/
theorem put_comm {other : Place} (inside : place ≠ []) (apart : place ≠ other) (e e' : Entry)
    (there : (disk.at? place).isSome = true) :
    (disk.put place e).put other e' = (disk.put other e').put place e :=
  congrArg Disk.mk (go_comm apart e e' (at_of_ne_nil inside ▸ there))

theorem Covers.put (covers : disk.Covers disk') (inside : place ≠ []) (e : Entry) :
    disk.Covers (disk'.put place e) := by
  intro other stands
  rw [entry_put inside]
  split
  · rfl
  · exact covers other stands

theorem file_put (inside : place ≠ []) (octets : List UInt8) :
    (disk.put place (.file octets)).file? = Function.update disk.file? place (some octets) := by
  funext other
  rw [file?, entry_put inside, Function.update_apply]
  split <;> rfl

theorem lookup_filter_ne (place : Place) (entries : List (Place × Entry)) (other : Place) :
    (entries.filter (·.1 != place)).lookup other = if other = place then none else entries.lookup other := by
  induction entries with
  | nil => simp
  | cons head rest ih =>
      obtain ⟨p, e⟩ := head
      by_cases here : p = place
      · rw [List.filter_cons_of_neg (by simpa using here), ih, lookup_cons, here]
        split <;> rfl
      · rw [List.filter_cons_of_pos (by simpa using here), lookup_cons, lookup_cons, ih]
        by_cases same : other = p
        · rw [if_pos same, if_pos same, if_neg fun equal => here (same ▸ equal)]
        · rw [if_neg same, if_neg same]

theorem entry_remove (inside : place ≠ []) (other : Place) :
    (disk.remove place).at? other = if other = place then none else disk.at? other := by
  by_cases root : other = []
  · rw [root, if_neg inside.symm]
    rfl
  · rw [at_of_ne_nil root, at_of_ne_nil root]
    exact lookup_filter_ne place disk.entries other

/-- What is put where nothing stands can be removed again without a trace. -/
theorem remove_put (inside : place ≠ []) (nothing : disk.at? place = none) (e : Entry) :
    (disk.put place e).remove place = disk := by
  rw [at_of_ne_nil inside] at nothing
  have others : disk.entries.filter (·.1 != place) = disk.entries := by
    refine List.filter_eq_self.2 fun entry stands => ?_
    have apart : place ≠ entry.1 := bne_iff_ne.1 (List.lookup_eq_none_iff.1 nothing entry stands)
    exact bne_iff_ne.2 apart.symm
  rw [remove, put, go_of_none nothing, List.filter_append, others, List.filter_cons_of_neg (by simp),
    List.filter_nil, List.append_nil]

theorem file_remove (inside : place ≠ []) :
    (disk.remove place).file? = Function.update disk.file? place none := by
  funext other
  rw [file?, entry_remove inside, Function.update_apply]
  split <;> rfl

theorem entry_addDirectory (disk : Disk) (place other : Place) :
    (disk.addDirectory place).at? other = disk.at? other ∨
      disk.at? other = none ∧ (disk.addDirectory place).at? other = some .directory := by
  by_cases root : other = []
  · rw [root]
    exact .inl rfl
  · rw [at_of_ne_nil root, at_of_ne_nil root, addDirectory, List.lookup_append]
    cases disk.entries.lookup other with
    | some e => exact .inl rfl
    | none =>
        rw [Option.none_or, lookup_cons]
        split
        · exact .inr ⟨rfl, rfl⟩
        · exact .inl rfl

theorem addAlong_ok {isNew isLast : Bool} {segment : String}
    (made : disk.addAlong isNew segment place isLast = .ok disk') :
    disk' = disk ∨ disk' = disk.addDirectory place := by
  unfold addAlong at made
  split at made
  · cases made
  · split at made
    · cases made
    · exact .inl (Except.ok.inj made).symm
    · exact .inr (Except.ok.inj made).symm

theorem file_addAlong {isNew isLast : Bool} {segment : String}
    (made : disk.addAlong isNew segment place isLast = .ok disk') : disk'.file? = disk.file? := by
  funext other
  rcases addAlong_ok made with rfl | rfl
  · rfl
  · rcases entry_addDirectory disk place other with same | ⟨nothing, directory⟩
    · rw [file?, file?, same]
    · rw [file?, file?, nothing, directory]
      rfl

theorem covers_addAlong {isNew isLast : Bool} {segment : String}
    (made : disk.addAlong isNew segment place isLast = .ok disk') : disk.Covers disk' := by
  intro other stands
  rcases addAlong_ok made with rfl | rfl
  · exact stands
  · rcases entry_addDirectory disk place other with same | ⟨nothing, _⟩
    · rw [same]
      exact stands
    · rw [nothing] at stands
      cases stands

/-- A file that is moved takes the place of another, and the place where it was is free. -/
theorem rename_ok (isFile : disk.at? source = some (.file octets))
    (moved : disk.rename source directory name = .ok disk') :
    (name ≠ "" ∧ name ≠ "..") ∧ disk.isDirectory (directory ++ [name]) = false ∧
      disk' = (disk.put (directory ++ [name]) (.file octets)).remove source := by
  unfold rename at moved
  split at moved
  · cases moved
  · next ordinary =>
      rw [Bool.or_eq_true, beq_iff_eq, beq_iff_eq, not_or] at ordinary
      simp only [isFile] at moved
      split at moved
      · cases moved
      · next free => exact ⟨ordinary.symm, Bool.eq_false_iff.2 free, (Except.ok.inj moved).symm⟩

theorem entry_firstFree {candidate : Nat → Place} {tries attempt : Nat}
    (free : disk.firstFree? candidate tries attempt = some place) :
    disk.at? place = none ∧ ∃ n, place = candidate n := by
  induction tries generalizing attempt with
  | zero => cases free
  | succ tries ih =>
      rw [firstFree?] at free
      split at free
      · next isFree =>
          cases free
          exact ⟨Option.isNone_iff_eq_none.1 isFree, attempt, rfl⟩
      · exact ih free

theorem missingAlong_le_length (disk : Disk) (here : Place) (segments : List String) :
    disk.missingAlong here segments ≤ segments.length := by
  induction segments generalizing here with
  | nil => exact Nat.le_refl 0
  | cons segment rest ih =>
      rw [missingAlong]
      split
      · exact Nat.le_succ_of_le (ih _)
      · exact Nat.le_refl _

/-- Where more stands, no more directories are missing. -/
theorem Covers.missingAlong_le (covers : disk.Covers disk') (here : Place) (segments : List String) :
    disk'.missingAlong here segments ≤ disk.missingAlong here segments := by
  induction segments generalizing here with
  | nil => exact Nat.le_refl 0
  | cons segment rest ih =>
      rw [missingAlong, missingAlong]
      by_cases stands : (disk.at? (Path.follow here segment)).isSome = true
      · rw [if_pos stands, if_pos (covers _ stands)]
        exact ih _
      · rw [if_neg stands]
        exact missingAlong_le_length disk' here (segment :: rest)

end Disk

end QueryHooks
