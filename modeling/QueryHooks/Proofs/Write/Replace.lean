import QueryHooks.Proofs.Disk.Calls
import QueryHooks.Proofs.Text.Pieces
import QueryHooks.Write

/-!
Writing one file, whatever the host refuses. Where nothing is refused, the place of the file gets the text
and every other file stays as it is. Where a call of the work is refused, every file stays as it is; only a
temporary file that the host does not let go of can be there in addition.
-/

namespace QueryHooks

open Write (discard fill replace settle)

variable {m m' m'' : Machine} {host : Host} {target : Path} {directory workdir temporary place : Place}
  {contents : String} {refusal : Refusal} {failure : Failure}

/-- Whether all files are as they were before, beside a temporary one that was left behind. -/
def Machine.Spared (m m' : Machine) : Prop :=
  ∀ place, m'.disk.file? place = m.disk.file? place ∨
    (m.disk.file? place = none ∧ m'.LeftBehind place)

/-- Whether, since an earlier state, no file has changed but a temporary one that was not there. -/
structure Machine.Aside (m : Machine) (temporary : Place) (m' : Machine) : Prop where
  inside : temporary ≠ []
  nothing : m.disk.at? temporary = none
  files : ∀ place ≠ temporary, m'.disk.file? place = m.disk.file? place
  covers : m.disk.Covers m'.disk

namespace Machine.Aside

theorem file_eq_none (aside : m.Aside temporary m') : m.disk.file? temporary = none := by
  rw [Disk.file?, aside.nothing]
  rfl

theorem of_disk (aside : m.Aside temporary m') (same : m''.disk = m'.disk) : m.Aside temporary m'' where
  inside := aside.inside
  nothing := aside.nothing
  files := by
    rw [same]
    exact aside.files
  covers := by
    rw [same]
    exact aside.covers

theorem put (aside : m.Aside temporary m') {octets : List UInt8}
    (put : m''.disk = m'.disk.put temporary (.file octets)) : m.Aside temporary m'' where
  inside := aside.inside
  nothing := aside.nothing
  files := by
    intro place apart
    rw [put, Disk.file_put aside.inside, Function.update_of_ne apart]
    exact aside.files place apart
  covers := by
    rw [put]
    exact aside.covers.put aside.inside _

theorem created {p : Path} (done : host.createBeside directory p m = (m', .ok temporary)) :
    m.Aside temporary m' := by
  obtain ⟨⟨draw, named⟩, nothing, created, -⟩ := Host.createBeside_ok done
  have inside : temporary ≠ [] := by
    rw [named]
    exact List.append_ne_nil_of_right_ne_nil _ (List.cons_ne_nil _ _)
  have start : m.Aside temporary m := ⟨inside, nothing, fun _ _ => rfl, .refl _⟩
  exact start.put created

/-- A temporary file that stays was refused its removal. -/
theorem spared (aside : m.Aside temporary m') (stays : m'.LeftBehind temporary) : m.Spared m' := by
  intro place
  by_cases here : place = temporary
  · rw [here]
    exact .inr ⟨aside.file_eq_none, stays⟩
  · exact .inl (aside.files place here)

theorem discarded (aside : m.Aside temporary m') : m.Spared (discard host temporary m') := by
  generalize called : host.call (.remove temporary) (fun disk => .ok (disk.remove temporary)) m' = outcome
  have last : discard host temporary m' = outcome.1 := congrArg Prod.fst called
  rw [last]
  obtain ⟨next, refusal | _⟩ := outcome
  · obtain ⟨same, log⟩ := Host.call_error called
    refine (aside.of_disk same).spared ⟨refusal, .inr ?_⟩
    rw [log]
    exact List.mem_cons_self
  · obtain ⟨removed, -⟩ := Host.call_ok called
    intro place
    left
    rw [← Except.ok.inj removed, Disk.file_remove aside.inside]
    by_cases here : place = temporary
    · rw [here, Function.update_self, aside.file_eq_none]
    · rw [Function.update_of_ne here]
      exact aside.files place here

end Machine.Aside

namespace Write

theorem discard_log (host : Host) (temporary : Place) (m : Machine) :
    ∃ entry, (discard host temporary m).log = entry :: m.log := by
  generalize called : host.call (.remove temporary) (fun disk => .ok (disk.remove temporary)) m = outcome
  have last : discard host temporary m = outcome.1 := congrArg Prod.fst called
  rw [last]
  obtain ⟨next, refusal | _⟩ := outcome
  · exact ⟨_, (Host.call_error called).2⟩
  · exact ⟨_, (Host.call_ok called).2⟩

theorem fill_ok (done : fill host target temporary contents m = (m', .ok ())) :
    m'.disk = m.disk.put temporary (.file (Text.Utf8.encode contents.toList)) ∧ m.Went m' := by
  unfold fill at done
  split at done
  · cases done
  simp only at done
  split at done
  · cases done
  next filled called =>
  cases done
  obtain ⟨written, wrote, rest⟩ := Host.calls_cons_ok called
  obtain ⟨synced, settled, rest⟩ := Host.calls_cons_ok rest
  cases rest
  refine ⟨?_, (Host.went_of_call wrote).trans (Host.went_of_call settled)⟩
  rw [← Except.ok.inj (Host.call_ok settled).1]
  exact (Except.ok.inj (Host.call_ok wrote).1).symm

/-- A text in whole characters fails to be written by a refusal only. -/
theorem fill_error (whole : Text.Half.areWhole contents.toList = true)
    (failed : fill host target temporary contents m = (m', .error failure)) :
    (∃ refusal, failure = .output target.text refusal) ∧ m.Broke m' ∧
      (m'.disk = m.disk ∨ m'.disk = m.disk.put temporary (.file (Text.Utf8.encode contents.toList))) := by
  unfold fill at failed
  rw [whole, if_neg (by decide)] at failed
  simp only at failed
  split at failed
  · next refusal called =>
      cases failed
      refine ⟨⟨refusal, rfl⟩, ?_⟩
      rcases Host.calls_cons_error called with stopped | ⟨written, wrote, rest⟩
      · exact ⟨Host.broke_of_call rfl stopped, .inl (Host.call_error stopped).1⟩
      rcases Host.calls_cons_error rest with stopped | ⟨_, _, rest⟩
      · refine ⟨(Host.went_of_call wrote).broke (Host.broke_of_call rfl stopped), .inr ?_⟩
        rw [(Host.call_error stopped).1]
        exact (Except.ok.inj (Host.call_ok wrote).1).symm
      · cases rest
  · cases failed

theorem settle_ok (done : settle host target directory temporary m = (m', .ok ())) :
    m.disk.rename temporary directory target.name = .ok m'.disk ∧ m.Went m' := by
  obtain ⟨closed, close, rest⟩ := Host.calls_cons_ok done
  obtain ⟨permitted, permit, rest⟩ := Host.calls_cons_ok rest
  obtain ⟨renamed, rename, rest⟩ := Host.calls_cons_ok rest
  cases rest
  have same : permitted.disk = m.disk :=
    (Except.ok.inj (Host.call_ok permit).1).symm.trans (Except.ok.inj (Host.call_ok close).1).symm
  refine ⟨?_, ((Host.went_of_call close).trans (Host.went_of_call permit)).trans (Host.went_of_call rename)⟩
  rw [← same]
  exact (Host.call_ok rename).1

theorem settle_error (failed : settle host target directory temporary m = (m', .error refusal)) :
    m'.disk = m.disk ∧ m.Broke m' := by
  rcases Host.calls_cons_error failed with stopped | ⟨closed, close, rest⟩
  · exact ⟨(Host.call_error stopped).1, Host.broke_of_call rfl stopped⟩
  have sameClosed : closed.disk = m.disk := (Except.ok.inj (Host.call_ok close).1).symm
  rcases Host.calls_cons_error rest with stopped | ⟨permitted, permit, rest⟩
  · exact ⟨(Host.call_error stopped).1.trans sameClosed,
      (Host.went_of_call close).broke (Host.broke_of_call rfl stopped)⟩
  have same : permitted.disk = m.disk := (Except.ok.inj (Host.call_ok permit).1).symm.trans sameClosed
  rcases Host.calls_cons_error rest with stopped | ⟨_, _, rest⟩
  · exact ⟨(Host.call_error stopped).1.trans same,
      ((Host.went_of_call close).trans (Host.went_of_call permit)).broke (Host.broke_of_call rfl stopped)⟩
  · cases rest

theorem temporaryName_ne (name : String) (draw : Nat) : temporaryName name draw ≠ name := by
  intro same
  have longer : (temporaryName name draw).length = name.length := congrArg String.length same
  rw [temporaryName] at longer
  simp only [String.length_append] at longer
  have ending : ".tmp".length = 4 := rfl
  omega

/-- A file that is put in the place of a path has a name and is all that changes on the disk. -/
theorem replace_entry (done : replace host directory target contents m = (m', .ok ())) :
    (target.name ≠ "" ∧ target.name ≠ "..") ∧ m.disk.isDirectory (directory ++ [target.name]) = false ∧
      (∀ place, m'.disk.at? place =
        if place = directory ++ [target.name] then some (.file (Text.Utf8.encode contents.toList))
        else m.disk.at? place) ∧ m.Went m' := by
  unfold replace at done
  simp only at done
  split at done
  · cases done
  split at done
  · cases done
  next opened temporary create =>
  split at done
  · split at done <;> cases done
  next filled fills =>
  split at done
  · cases done
  next settled settles =>
  cases done
  obtain ⟨⟨draw, named⟩, nothing, created, wentCreate⟩ := Host.createBeside_ok create
  obtain ⟨full, wentFill⟩ := fill_ok fills
  obtain ⟨moved, wentSettle⟩ := settle_ok settles
  have inside : temporary ≠ [] := (Machine.Aside.created create).inside
  have insideTarget : directory ++ [target.name] ≠ [] :=
    List.append_ne_nil_of_right_ne_nil _ (List.cons_ne_nil _ _)
  have isFile : filled.disk.at? temporary = some (.file (Text.Utf8.encode contents.toList)) := by
    rw [full, Disk.entry_put inside, if_pos rfl]
  obtain ⟨ordinary, free, renamed⟩ := Disk.rename_ok isFile moved
  have apart : directory ++ [target.name] ≠ temporary := by
    rw [named]
    intro same
    exact temporaryName_ne _ _ (List.singleton_inj.1 (List.append_cancel_left same)).symm
  have before : filled.disk.at? (directory ++ [target.name]) = m.disk.at? (directory ++ [target.name]) := by
    rw [full, Disk.entry_put inside, if_neg apart, created, Disk.entry_put inside, if_neg apart]
  refine ⟨ordinary, ?_, fun place => ?_, (wentCreate.trans wentFill).trans wentSettle⟩
  · rw [Disk.isDirectory, ← before]
    exact free
  · rw [renamed, Disk.entry_remove inside, Disk.entry_put insideTarget, full, Disk.entry_put inside, created,
      Disk.entry_put inside]
    by_cases here : place = temporary
    · rw [if_pos here, here, if_neg apart.symm, nothing]
    · rw [if_neg here, if_neg here, if_neg here]

/-- A file that is put in the place of a path has a name, and changes no other file. -/
theorem replace_ok (done : replace host directory target contents m = (m', .ok ())) :
    (target.name ≠ "" ∧ target.name ≠ "..") ∧
      m'.disk.file? = Function.update m.disk.file? (directory ++ [target.name])
        (some (Text.Utf8.encode contents.toList)) ∧
      m.disk.Covers m'.disk ∧ m.Went m' := by
  obtain ⟨ordinary, -, entries, went⟩ := replace_entry done
  refine ⟨ordinary, ?_, fun place stands => ?_, went⟩
  · funext place
    rw [Disk.file?, entries, Function.update_apply]
    split <;> rfl
  · rw [entries]
    split
    · rfl
    · exact stands

theorem replace_error (nameable : isNameable target.name = true)
    (whole : Text.Half.areWhole contents.toList = true)
    (failed : replace host directory target contents m = (m', .error failure)) :
    (∃ refusal, failure = .output target.text refusal) ∧ m.Broke m' ∧ m.Spared m' := by
  unfold replace at failed
  simp only at failed
  rw [nameable, if_neg (by decide)] at failed
  split at failed
  · next opened refusal create =>
      cases failed
      obtain ⟨same, broke⟩ := Host.createBeside_error create
      refine ⟨⟨refusal, rfl⟩, broke, fun place => .inl ?_⟩
      rw [same]
  next opened temporary create =>
  have wentCreate := (Host.createBeside_ok create).2.2.2
  have asideOpened := Machine.Aside.created create
  split at failed
  · next filled fillFailure fills =>
      obtain ⟨refused, brokeFill, changed⟩ := fill_error whole fills
      have aside : m.Aside temporary filled := by
        rcases changed with same | put
        · exact asideOpened.of_disk same
        · exact asideOpened.put put
      -- The temporary file is given up, and there the host may refuse once more.
      have broke : m.Broke filled := wentCreate.broke brokeFill
      split at failed
      · next abandoned refusal abandon =>
          cases failed
          obtain ⟨same, log⟩ := Host.call_error abandon
          refine ⟨⟨refusal, rfl⟩, broke.cons log, (aside.of_disk same).spared ⟨refusal, .inl ?_⟩⟩
          rw [log]
          exact List.mem_cons_self
      · next abandoned abandon =>
          cases failed
          obtain ⟨same, log⟩ := Host.call_ok abandon
          obtain ⟨entry, discarded⟩ := discard_log host temporary abandoned
          exact ⟨refused, (broke.cons log).cons discarded,
            (aside.of_disk (Except.ok.inj same).symm).discarded⟩
  next filled fills =>
  obtain ⟨full, wentFill⟩ := fill_ok fills
  split at failed
  · next settled refusal settles =>
      cases failed
      obtain ⟨same, brokeSettle⟩ := settle_error settles
      obtain ⟨entry, discarded⟩ := discard_log host temporary settled
      exact ⟨⟨refusal, rfl⟩, ((wentCreate.trans wentFill).broke brokeSettle).cons discarded,
        ((asideOpened.put full).of_disk same).discarded⟩
  · cases failed

end Write

end QueryHooks
