import Mathlib.Algebra.Group.Nat.Defs
import Mathlib.Data.List.Nodup
import Mathlib.Data.List.Perm.Subperm
import QueryHooks.Proofs.Disk.Grounded

/-!
Hosts that refuse nothing. What can be done on a disk is done there: directories that are all there need not be
made, and a temporary file is created wherever one of the names that are drawn for it is free.
-/

namespace QueryHooks

variable {host : Host} {m m' : Machine} {here directory : Place} {segments : List String} {disk : Disk} {p : Path}

/-- Whether a host refuses nothing, and draws a free name for every temporary file on a disk. -/
structure Host.Grants (host : Host) (disk : Disk) : Prop where
  willing : ∀ n made, host.refuses n made = none
  free : ∀ n directory name, ∃ attempt < maxTries,
    disk.at? (directory ++ [temporaryName name (host.draws n attempt)]) = none

/-- What a host grants on one disk it grants on another with the same places taken. -/
theorem Host.Grants.of_places {disk' : Disk} (grants : host.Grants disk)
    (same : ∀ place, disk.at? place = none → disk'.at? place = none) : host.Grants disk' where
  willing := grants.willing
  free := by
    intro n directory name
    obtain ⟨attempt, few, nothing⟩ := grants.free n directory name
    exact ⟨attempt, few, same _ nothing⟩

theorem endingLetters_nodup : endingLetters.Nodup := by decide

/-- The characters of a temporary ending tell the draw it was made from, digit by digit. -/
theorem digit_of_temporaryEnding {draw draw' i : Nat} (inside : i < endingLength)
    (same : temporaryEnding draw = temporaryEnding draw') :
    draw / 37 ^ i % 37 = draw' / 37 ^ i % 37 := by
  have letters := List.map_inj_left.1 (String.ofList_injective same) i (List.mem_range.2 inside)
  have known (n : Nat) : n / 37 ^ i % 37 < endingLetters.length := Nat.mod_lt _ (by decide)
  have equal : endingLetters[draw / 37 ^ i % 37]?.getD '_' = endingLetters[draw' / 37 ^ i % 37]?.getD '_' := letters
  rw [List.getElem?_eq_getElem (known draw), List.getElem?_eq_getElem (known draw'), Option.getD_some,
    Option.getD_some] at equal
  exact (endingLetters_nodup.getElem_inj_iff).1 equal

theorem temporaryEnding_inj {draw draw' : Nat} (few : draw < maxTries) (few' : draw' < maxTries)
    (same : temporaryEnding draw = temporaryEnding draw') : draw = draw' := by
  have first := digit_of_temporaryEnding (i := 0) (by decide) same
  have second := digit_of_temporaryEnding (i := 1) (by decide) same
  have third := digit_of_temporaryEnding (i := 2) (by decide) same
  unfold maxTries at few few'
  omega

theorem temporaryName_inj {name : String} {draw draw' : Nat}
    (same : temporaryName name draw = temporaryName name draw') : temporaryEnding draw = temporaryEnding draw' := by
  unfold temporaryName at same
  exact String.append_right_inj _ |>.1 (String.append_left_inj _ |>.1 same)

/-- A host that refuses nothing and draws one number after the other has a free name wherever there are few entries. -/
theorem Host.grants_of_few (few : disk.entries.length < maxTries) : ({} : Host).Grants disk where
  willing := fun _ _ => rfl
  free := by
    intro n directory name
    by_contra taken
    let candidate (attempt : Nat) : Place := directory ++ [temporaryName name attempt]
    have distinct : ((List.range maxTries).map candidate).Nodup := by
      refine List.Nodup.map_on (fun attempt inside attempt' inside' same => ?_) List.nodup_range
      have sameName := List.singleton_inj.1 (List.append_cancel_left same)
      exact temporaryEnding_inj (List.mem_range.1 inside) (List.mem_range.1 inside') (temporaryName_inj sameName)
    have stand : (List.range maxTries).map candidate ⊆ disk.entries.map (·.1) := by
      intro place inside
      obtain ⟨attempt, few, rfl⟩ := List.mem_map.1 inside
      have stands : disk.at? (candidate attempt) ≠ none := fun nothing =>
        taken ⟨attempt, List.mem_range.1 few, nothing⟩
      rw [Disk.at_of_ne_nil (List.append_ne_nil_of_right_ne_nil _ (List.cons_ne_nil _ _))] at stands
      obtain ⟨e, there⟩ := Option.ne_none_iff_exists'.1 stands
      obtain ⟨before, after, whole, -⟩ := List.lookup_eq_some_iff.1 there
      rw [whole]
      exact List.mem_map.2 ⟨(candidate attempt, e), List.mem_append_right _ List.mem_cons_self, rfl⟩
    have lengths := (distinct.subperm stand).length_le
    rw [List.length_map, List.length_range, List.length_map] at lengths
    omega

namespace Host

theorem call_of_willing (willing : ∀ n made, host.refuses n made = none) {made : Call}
    {effect : Disk → Except Refusal Disk} (took : effect m.disk = .ok disk) :
    host.call made effect m = (⟨disk, (made, none) :: m.log⟩, .ok ()) := by
  simp only [call, willing, took]

theorem makeAlong_of_leads (willing : ∀ n made, host.refuses n made = none) (leads : m.disk.Leads here segments)
    (short : ∀ segment ∈ segments, Disk.isTooLong segment = false) :
    ∃ m', host.makeAlong false here segments m = (m', .ok (segments.foldl Path.follow here)) ∧
      m'.disk = m.disk := by
  induction segments generalizing here m with
  | nil => exact ⟨m, rfl, rfl⟩
  | cons segment rest ih =>
      obtain ⟨shortFirst, shortRest⟩ := List.forall_mem_cons.1 short
      have stands := Disk.isDirectory_iff.1 leads.1
      have looked : m.disk.entryAlong? false segment (Path.follow here segment) = some .directory := stands
      have took : m.disk.addAlong false segment (Path.follow here segment) rest.isEmpty = .ok m.disk := by
        simp only [Disk.addAlong, shortFirst, looked, Bool.false_eq_true, if_false]
      let next : Machine := ⟨m.disk, (.makeDirectory (Path.follow here segment), none) :: m.log⟩
      have called : host.call (.makeDirectory (Path.follow here segment))
          (fun disk => disk.addAlong false segment (Path.follow here segment) rest.isEmpty) m = (next, .ok ()) :=
        call_of_willing willing took
      obtain ⟨last, goesOn, same⟩ := ih (m := next) leads.2 shortRest
      refine ⟨last, ?_, same⟩
      rw [makeAlong]
      simp only [called, looked, Option.isNone_some]
      exact goesOn

theorem firstFree_of_free (candidate : Nat → Place) {tries : Nat} (start : Nat) {attempt : Nat} (inside : attempt < tries)
    (nothing : disk.at? (candidate (start + attempt)) = none) :
    ∃ place, disk.firstFree? candidate tries start = some place := by
  induction tries generalizing start attempt with
  | zero => exact absurd inside (Nat.not_lt_zero _)
  | succ tries ih =>
      rw [Disk.firstFree?]
      split
      · exact ⟨_, rfl⟩
      · next taken =>
          cases attempt with
          | zero => exact absurd (by rw [← Nat.add_zero start, nothing]; rfl) taken
          | succ attempt =>
              refine ih (start + 1) (Nat.lt_of_succ_lt_succ inside : attempt < tries) ?_
              rw [Nat.add_right_comm]
              exact nothing

theorem createBeside_of_grants (grants : host.Grants m.disk) (short : isTooLongBeside p = false)
    (directory : Place) : ∃ m' temporary, host.createBeside directory p m = (m', .ok temporary) := by
  obtain ⟨attempt, few, nothing⟩ := grants.free m.log.length directory p.name
  let candidate (attempt : Nat) : Place := directory ++ [temporaryName p.name (host.draws m.log.length attempt)]
  obtain ⟨place, free⟩ := firstFree_of_free candidate 0 few ((Nat.zero_add attempt).symm ▸ nothing)
  let created : Machine := ⟨m.disk.put place (.file []), (.create place, none) :: m.log⟩
  have called : host.call (.create place) (fun disk => .ok (disk.put place (.file []))) m = (created, .ok ()) :=
    call_of_willing grants.willing rfl
  refine ⟨created, place, ?_⟩
  simp only [candidate] at free
  simp only [createBeside, free, short, Option.getD_some, Option.isNone_some, Bool.false_eq_true, if_false, called]

end Host

end QueryHooks
