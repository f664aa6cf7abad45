import QueryHooks.Proofs.Disk.Files

/-!
What calls do to the files of a disk, whatever the host refuses. A call takes effect or leaves the disk as
it is, and the log tells which; making directories changes no file, and a temporary file is created where
nothing stands.
-/

namespace QueryHooks

/-- Whether a call is part of the work, and not of clearing up after it. -/
def Call.isWork : Call → Bool
  | .abandon _ => false
  | .remove _ => false
  | _ => true

namespace Machine

variable {m m' m'' : Machine}

/-- Whether all calls from one state of a machine to another took effect. -/
def Went (m m' : Machine) : Prop := ∃ made, m'.log = made ++ m.log ∧ ∀ entry ∈ made, entry.2 = none

/-- Whether a call of the work was refused between two states of a machine. -/
def Broke (m m' : Machine) : Prop :=
  ∃ made, m'.log = made ++ m.log ∧ ∃ entry ∈ made, entry.1.isWork = true ∧ entry.2.isSome = true

theorem broke_iff :
    m.Broke m' ↔ m'.log = m'.log.take (m'.log.length - m.log.length) ++ m.log ∧
      ∃ entry ∈ m'.log.take (m'.log.length - m.log.length), entry.1.isWork = true ∧ entry.2.isSome = true := by
  constructor
  · rintro ⟨made, log, refused⟩
    have newest : m'.log.take (m'.log.length - m.log.length) = made := by
      rw [log, List.length_append, Nat.add_sub_cancel, List.take_left]
    rw [newest]
    exact ⟨log, refused⟩
  · rintro ⟨log, refused⟩
    exact ⟨_, log, refused⟩

instance (m m' : Machine) : Decidable (m.Broke m') := decidable_of_iff' _ broke_iff

/-- Whether a file that was given up could not be closed or could not be removed. -/
def LeftBehind (m : Machine) (place : Place) : Prop :=
  ∃ refusal, (Call.abandon place, some refusal) ∈ m.log ∨ (Call.remove place, some refusal) ∈ m.log

theorem Went.refl (m : Machine) : m.Went m := ⟨[], rfl, fun _ impossible => absurd impossible List.not_mem_nil⟩

theorem Went.trans (first : m.Went m') (second : m'.Went m'') : m.Went m'' := by
  obtain ⟨made, log, all⟩ := first
  obtain ⟨made', log', all'⟩ := second
  refine ⟨made' ++ made, by rw [log', log, List.append_assoc], fun entry inside => ?_⟩
  rcases List.mem_append.1 inside with late | early
  · exact all' entry late
  · exact all entry early

theorem Went.broke (first : m.Went m') (second : m'.Broke m'') : m.Broke m'' := by
  obtain ⟨made, log, _⟩ := first
  obtain ⟨made', log', entry, inside, refused⟩ := second
  exact ⟨made' ++ made, by rw [log', log, List.append_assoc], entry, List.mem_append_left _ inside, refused⟩

theorem Broke.cons (first : m.Broke m') {entry : Call × Option Refusal}
    (log : m''.log = entry :: m'.log) : m.Broke m'' := by
  obtain ⟨made, log', refused, inside, isRefused⟩ := first
  exact ⟨entry :: made, by rw [log, log', List.cons_append], refused, List.mem_cons_of_mem _ inside, isRefused⟩

theorem Went.not_broke (went : m.Went m') : ¬ m.Broke m' := by
  obtain ⟨made, log, all⟩ := went
  rintro ⟨made', log', entry, inside, _, refused⟩
  rw [List.append_cancel_right (log'.symm.trans log)] at inside
  rw [all entry inside] at refused
  cases refused

end Machine

namespace Host

variable {host : Host} {made : Call} {effect : Disk → Except Refusal Disk} {m m' : Machine}
  {refusal : Refusal} {place : Place}

theorem call_ok (done : host.call made effect m = (m', .ok ())) :
    effect m.disk = .ok m'.disk ∧ m'.log = (made, none) :: m.log := by
  unfold call at done
  split at done
  · cases done
  · split at done
    · cases done
    · next disk took =>
        cases done
        exact ⟨took, rfl⟩

theorem call_error (failed : host.call made effect m = (m', .error refusal)) :
    m'.disk = m.disk ∧ m'.log = (made, some refusal) :: m.log := by
  unfold call at failed
  split at failed
  · cases failed
    exact ⟨rfl, rfl⟩
  · split at failed
    · cases failed
      exact ⟨rfl, rfl⟩
    · cases failed

theorem went_of_call (done : host.call made effect m = (m', .ok ())) : m.Went m' := by
  refine ⟨[(made, none)], (call_ok done).2, fun entry inside => ?_⟩
  rw [List.mem_singleton.1 inside]

theorem broke_of_call (isWork : made.isWork = true) (failed : host.call made effect m = (m', .error refusal)) :
    m.Broke m' :=
  ⟨[(made, some refusal)], (call_error failed).2, _, List.mem_singleton_self _, isWork, rfl⟩

theorem calls_cons_ok {rest : List (Call × (Disk → Except Refusal Disk))}
    (done : host.calls ((made, effect) :: rest) m = (m', .ok ())) :
    ∃ next, host.call made effect m = (next, .ok ()) ∧ host.calls rest next = (m', .ok ()) := by
  unfold calls at done
  split at done
  · cases done
  · next next here => exact ⟨next, here, done⟩

theorem calls_cons_error {rest : List (Call × (Disk → Except Refusal Disk))}
    (failed : host.calls ((made, effect) :: rest) m = (m', .error refusal)) :
    host.call made effect m = (m', .error refusal) ∨
      ∃ next, host.call made effect m = (next, .ok ()) ∧ host.calls rest next = (m', .error refusal) := by
  unfold calls at failed
  split at failed
  · next here =>
      cases failed
      exact .inl here
  · next next here => exact .inr ⟨next, here, failed⟩

/-- Going along segments leads to the place that they name, and leaves all files as they are. -/
theorem makeAlong_ok {isNew : Bool} {here : Place} {segments : List String}
    (done : host.makeAlong isNew here segments m = (m', .ok place)) :
    place = segments.foldl Path.follow here ∧ m'.disk.file? = m.disk.file? ∧
      m.disk.Covers m'.disk ∧ m.Went m' := by
  induction segments generalizing isNew here m with
  | nil =>
      cases done
      exact ⟨rfl, rfl, .refl _, .refl _⟩
  | cons segment rest ih =>
      rw [makeAlong] at done
      split at done
      · cases done
      · next next taken =>
          obtain ⟨added, -⟩ := call_ok taken
          obtain ⟨ends, sameFiles, covers, went⟩ := ih done
          exact ⟨ends, sameFiles.trans (Disk.file_addAlong added), (Disk.covers_addAlong added).trans covers,
            (went_of_call taken).trans went⟩

theorem makeAlong_error {isNew : Bool} {here : Place} {segments : List String}
    (failed : host.makeAlong isNew here segments m = (m', .error refusal)) :
    m'.disk.file? = m.disk.file? ∧ m.Broke m' := by
  induction segments generalizing isNew here m with
  | nil => cases failed
  | cons segment rest ih =>
      rw [makeAlong] at failed
      split at failed
      · next stopped =>
          cases failed
          rw [(call_error stopped).1]
          exact ⟨rfl, broke_of_call rfl stopped⟩
      · next next taken =>
          obtain ⟨sameFiles, broke⟩ := ih failed
          exact ⟨sameFiles.trans (Disk.file_addAlong (call_ok taken).1), (went_of_call taken).broke broke⟩

theorem makeDirectory_ok {workdir : Place} {p : Path}
    (done : host.makeDirectory workdir p m = (m', .ok place)) :
    place = p.resolve workdir ∧ m'.disk.file? = m.disk.file? ∧ m.disk.Covers m'.disk ∧ m.Went m' := by
  unfold makeDirectory at done
  split at done
  · split at done
    · cases done
    · next took => cases (call_ok took).1
  · exact makeAlong_ok done

theorem makeDirectory_error {workdir : Place} {p : Path}
    (failed : host.makeDirectory workdir p m = (m', .error refusal)) :
    m'.disk.file? = m.disk.file? ∧ m.Broke m' := by
  unfold makeDirectory at failed
  split at failed
  · split at failed
    · next stopped =>
        cases failed
        rw [(call_error stopped).1]
        exact ⟨rfl, broke_of_call rfl stopped⟩
    · cases failed
  · exact makeAlong_error failed

/-- A temporary file is created empty, under a name of its kind, where nothing stands. -/
theorem createBeside_ok {directory : Place} {p : Path}
    (done : host.createBeside directory p m = (m', .ok place)) :
    (∃ draw, place = directory ++ [temporaryName p.name draw]) ∧ m.disk.at? place = none ∧
      m'.disk = m.disk.put place (.file []) ∧ m.Went m' := by
  simp only [createBeside] at done
  generalize isFree : m.disk.firstFree? _ maxTries 0 = free at done
  generalize called : host.call _ _ m = outcome at done
  obtain ⟨next, _ | _⟩ := outcome
  · cases done
  · obtain ⟨took, _⟩ := call_ok called
    cases done
    split at took
    · cases took
    · cases free with
      | none => cases took
      | some temporary =>
          obtain ⟨nothing, attempt, same⟩ := Disk.entry_firstFree isFree
          exact ⟨⟨_, same⟩, nothing, (Except.ok.inj took).symm, went_of_call called⟩

theorem createBeside_error {directory : Place} {p : Path}
    (failed : host.createBeside directory p m = (m', .error refusal)) : m'.disk = m.disk ∧ m.Broke m' := by
  simp only [createBeside] at failed
  generalize called : host.call _ _ m = outcome at failed
  obtain ⟨next, _ | _⟩ := outcome
  · cases failed
    exact ⟨(call_error called).1, broke_of_call rfl called⟩
  · cases failed

end Host

end QueryHooks
