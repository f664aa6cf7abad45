import QueryHooks.Proofs.Disk.Willing
import QueryHooks.Proofs.Write.Prefix

/-!
Writing the same files again. A course that succeeds leaves every file with the last text that is planned for
it, whatever the disk held before; so where it succeeded once it succeeds again, and finds nothing to change.
-/

namespace QueryHooks.Write

variable {host host' : Host} {m m' : Machine} {disk disk' : Disk} {workdir place directory temporary : Place}
  {outDir : String} {p : Path} {contents : String} {listener : Noted.Listener} {planned : List PlannedFile}
  {paths : List Path}

/-! What a file that was written tells of its path and its text. -/

/-- Whether nothing about a path and a text themselves stands in the way of writing. -/
structure Suits (p : Path) (contents : String) : Prop where
  parent : isNameable p.parent.text = true
  name : isNameable p.name = true
  short : p.parent.isTooLong = false
  segments : ∀ segment ∈ p.parent.segments, Disk.isTooLong segment = false
  beside : isTooLongBeside p = false
  whole : Text.Half.areWhole contents.toList = true
  ordinary : p.name ≠ "" ∧ p.name ≠ ".."

/-- Whether a file stands where a path leads, at the end of a way through directories. -/
structure Stands (disk : Disk) (workdir : Place) (p : Path) : Prop where
  leads : disk.Leads (Disk.startOf workdir p) p.parent.segments
  isFile : (disk.file? (p.resolve workdir)).isSome = true

theorem Stands.mono (keeps : disk.KeepsDirectories disk')
    (files : ∀ place, (disk.file? place).isSome = true → (disk'.file? place).isSome = true)
    (stands : Stands disk workdir p) : Stands disk' workdir p where
  leads := stands.leads.mono keeps
  isFile := files _ stands.isFile

theorem createBeside_short (done : host.createBeside directory p m = (m', .ok temporary)) :
    isTooLongBeside p = false := by
  simp only [Host.createBeside] at done
  generalize called : host.call _ _ m = outcome at done
  obtain ⟨next, _ | _⟩ := outcome
  · cases done
  · have took := (Host.call_ok called).1
    split at took
    · cases took
    · next short => exact Bool.eq_false_iff.2 short

theorem fill_whole (done : fill host p temporary contents m = (m', .ok ())) :
    Text.Half.areWhole contents.toList = true := by
  unfold fill at done
  split at done
  · cases done
  · next whole =>
      rw [Bool.not_eq_true', Bool.not_eq_false] at whole
      exact whole

theorem replace_suits (done : replace host directory p contents m = (m', .ok ())) :
    isNameable p.name = true ∧ isTooLongBeside p = false ∧ Text.Half.areWhole contents.toList = true := by
  unfold replace at done
  simp only at done
  split at done
  · cases done
  next nameable =>
  rw [Bool.not_eq_true', Bool.not_eq_false] at nameable
  split at done
  · cases done
  next opened temporary create =>
  split at done
  · split at done <;> cases done
  next filled fills => exact ⟨nameable, createBeside_short create, fill_whole fills⟩

theorem makeDirectory_short (done : host.makeDirectory workdir p m = (m', .ok place)) :
    p.isTooLong = false ∧ host.makeAlong false (Disk.startOf workdir p) p.segments m = (m', .ok place) := by
  unfold Host.makeDirectory at done
  split at done
  · split at done
    · cases done
    · next took => cases (Host.call_ok took).1
  · next short => exact ⟨Bool.eq_false_iff.2 short, done⟩

theorem startOf_isDirectory (grounded : disk.Grounded workdir) (p : Path) :
    disk.isDirectory (Disk.startOf workdir p) = true := by
  unfold Disk.startOf
  split
  · rfl
  · exact grounded.workdir

/-- A file that is put in a directory leaves all directories as they are. -/
theorem replace_grounded (grounded : m.disk.Grounded workdir) (isDirectory : m.disk.isDirectory directory = true)
    (done : replace host directory p contents m = (m', .ok ())) :
    m.disk.KeepsDirectories m'.disk ∧ m'.disk.Grounded workdir := by
  obtain ⟨-, free, entries, -⟩ := replace_entry done
  have keeps : m.disk.KeepsDirectories m'.disk := by
    intro place stands
    have apart : place ≠ directory ++ [p.name] := by
      rintro rfl
      rw [free] at stands
      cases stands
    rw [Disk.isDirectory_iff] at stands ⊢
    rw [entries, if_neg apart, stands]
  refine ⟨keeps, fun place stands => ?_, keeps _ grounded.workdir⟩
  rw [entries] at stands
  split at stands
  · next here =>
      rw [here, List.dropLast_concat]
      exact keeps _ isDirectory
  · exact keeps _ (grounded.parents place stands)

theorem file_grounded (grounded : m.disk.Grounded workdir) (done : file host workdir p contents m = (m', .ok ())) :
    m.disk.KeepsDirectories m'.disk ∧ m'.disk.Grounded workdir ∧ Suits p contents ∧ Stands m'.disk workdir p := by
  have isFile : (m'.disk.file? (p.resolve workdir)).isSome = true := by
    rw [(file_ok done).1, Function.update_self]
    rfl
  unfold file at done
  split at done
  · cases done
  next nameable =>
  rw [Bool.not_eq_true', Bool.not_eq_false] at nameable
  split at done
  · cases done
  split at done
  · cases done
  next made directory makes =>
  obtain ⟨short, along⟩ := makeDirectory_short makes
  have start := startOf_isDirectory grounded p.parent
  obtain ⟨keepsMade, groundedMade, leads, segments⟩ := Host.makeAlong_grounded grounded start (by simp) along
  have isDirectory : made.disk.isDirectory directory = true := by
    rw [(Host.makeAlong_ok along).1]
    exact leads.isDirectory (keepsMade _ start)
  obtain ⟨keeps, groundedAfter⟩ := replace_grounded groundedMade isDirectory done
  obtain ⟨name, beside, whole⟩ := replace_suits done
  exact ⟨keepsMade.trans keeps, groundedAfter,
    ⟨nameable, name, short, segments, beside, whole, (replace_entry done).1⟩, leads.mono keeps, isFile⟩

theorem file_keeps_files (done : file host workdir p contents m = (m', .ok ())) (place : Place)
    (isFile : (m.disk.file? place).isSome = true) : (m'.disk.file? place).isSome = true := by
  rw [(file_ok done).1, Function.update_apply]
  split
  · rfl
  · exact isFile

/-! A course that succeeds. -/

theorem course_cons_ok {first : PlannedFile} {rest : List PlannedFile}
    (done : (course (file host workdir) listener outDir (first :: rest) m).written = .ok paths) :
    ∃ next, file host workdir (target outDir first) first.contents m = (next, .ok ()) ∧
      listener (note (target outDir first)) = none ∧
      (course (file host workdir) listener outDir (first :: rest) m).machine =
        (course (file host workdir) listener outDir rest next).machine ∧
      ∃ others, (course (file host workdir) listener outDir rest next).written = .ok others := by
  simp only [course] at done ⊢
  generalize written : file host workdir (target outDir first) first.contents m = outcome at done ⊢
  obtain ⟨next, failure | _⟩ := outcome
  · cases done
  · simp only at done ⊢
    cases heard : listener (note (target outDir first)) with
    | some failure =>
        rw [heard] at done
        cases done
    | none =>
        rw [heard] at done
        refine ⟨next, rfl, rfl, rfl, ?_⟩
        cases below : (course (file host workdir) listener outDir rest next).written with
        | error failure =>
            simp only [below] at done
            cases done
        | ok others => exact ⟨others, rfl⟩

theorem course_heard (done : (course (file host workdir) listener outDir planned m).written = .ok paths) :
    ∀ file ∈ planned, listener (note (target outDir file)) = none := by
  induction planned generalizing m paths with
  | nil => exact fun _ impossible => absurd impossible List.not_mem_nil
  | cons first rest ih =>
      obtain ⟨next, -, heard, -, others, goesOn⟩ := course_cons_ok done
      exact List.forall_mem_cons.2 ⟨heard, ih goesOn⟩

/-- The files hold what was planned last for them, whatever they held before. -/
theorem course_files (done : (course (file host workdir) listener outDir planned m).written = .ok paths) :
    (course (file host workdir) listener outDir planned m).disk.file? =
      after m.disk.file? workdir outDir planned := by
  induction planned generalizing m paths with
  | nil => rfl
  | cons first rest ih =>
      obtain ⟨next, written, -, same, others, goesOn⟩ := course_cons_ok done
      have last : (course (file host workdir) listener outDir (first :: rest) m).disk =
          (course (file host workdir) listener outDir rest next).disk := congrArg Machine.disk same
      rw [last, ih goesOn, (file_ok written).1, after_cons]
      rfl

theorem course_grounded (grounded : m.disk.Grounded workdir)
    (done : (course (file host workdir) listener outDir planned m).written = .ok paths) :
    m.disk.KeepsDirectories (course (file host workdir) listener outDir planned m).disk ∧
      ∀ each ∈ planned, Suits (target outDir each) each.contents ∧
        Stands (course (file host workdir) listener outDir planned m).disk workdir (target outDir each) := by
  induction planned generalizing m paths with
  | nil => exact ⟨fun _ => id, fun _ impossible => absurd impossible List.not_mem_nil⟩
  | cons first rest ih =>
      obtain ⟨next, written, -, same, others, goesOn⟩ := course_cons_ok done
      have last : (course (file host workdir) listener outDir (first :: rest) m).disk =
          (course (file host workdir) listener outDir rest next).disk := congrArg Machine.disk same
      obtain ⟨keepsFirst, groundedFirst, suits, stands⟩ := file_grounded grounded written
      obtain ⟨keeps, all⟩ := ih groundedFirst goesOn
      rw [last]
      refine ⟨keepsFirst.trans keeps, List.forall_mem_cons.2 ⟨⟨suits, stands.mono keeps fun place isFile => ?_⟩, all⟩⟩
      rw [course_files goesOn, after]
      split
      · rfl
      · exact isFile

/-! A course over files that are there. -/

/-- A disk after one file after the other is put in its place. -/
def overwrite (workdir : Place) (outDir : String) (planned : List PlannedFile) (disk : Disk) : Disk :=
  planned.foldl (fun disk file =>
    disk.put (file.place workdir outDir) (.file (Text.Utf8.encode file.contents.toList))) disk

theorem calls_cons {rest : List (Call × (Disk → Except Refusal Disk))} {made : Call}
    {effect : Disk → Except Refusal Disk} (called : host.call made effect m = (m', .ok ())) :
    host.calls ((made, effect) :: rest) m = host.calls rest m' := by
  rw [Host.calls, called]

theorem fill_of_willing (willing : ∀ n made, host.refuses n made = none)
    (whole : Text.Half.areWhole contents.toList = true) :
    ∃ m', fill host p temporary contents m = (m', .ok ()) ∧
      m'.disk = m.disk.put temporary (.file (Text.Utf8.encode contents.toList)) := by
  let octets := Text.Utf8.encode contents.toList
  let effect (disk : Disk) : Except Refusal Disk := .ok (disk.put temporary (.file octets))
  let written : Machine := ⟨m.disk.put temporary (.file octets), (.write temporary, none) :: m.log⟩
  let settled : Machine := ⟨written.disk, (.sync temporary, none) :: written.log⟩
  have wrote : host.call (.write temporary) effect m = (written, .ok ()) := Host.call_of_willing willing rfl
  have synced : host.call (.sync temporary) .ok written = (settled, .ok ()) := Host.call_of_willing willing rfl
  have called : host.calls [(.write temporary, effect), (.sync temporary, .ok)] m = (settled, .ok ()) := by
    rw [calls_cons wrote, calls_cons synced, Host.calls]
  refine ⟨settled, ?_, rfl⟩
  rw [fill, whole, if_neg (by decide)]
  simp only [effect, octets] at called ⊢
  simp only [called]

theorem settle_of_willing (willing : ∀ n made, host.refuses n made = none)
    (moved : m.disk.rename temporary directory p.name = .ok disk) :
    ∃ m', settle host p directory temporary m = (m', .ok ()) ∧ m'.disk = disk := by
  let shut : Machine := ⟨m.disk, (.close temporary, none) :: m.log⟩
  let allowed : Machine := ⟨m.disk, (.permit temporary, none) :: shut.log⟩
  let named : Machine := ⟨disk, (.rename temporary (directory ++ [p.name]), none) :: allowed.log⟩
  have closed : host.call (.close temporary) .ok m = (shut, .ok ()) := Host.call_of_willing willing rfl
  have permitted : host.call (.permit temporary) .ok shut = (allowed, .ok ()) := Host.call_of_willing willing rfl
  have renamed : host.call (.rename temporary (directory ++ [p.name])) (·.rename temporary directory p.name) allowed =
      (named, .ok ()) := Host.call_of_willing willing moved
  refine ⟨named, ?_, rfl⟩
  rw [settle, calls_cons closed, calls_cons permitted, calls_cons renamed, Host.calls]

/-- A file that is moved over another from where nothing stood before leaves no trace there. -/
theorem rename_over (inside : temporary ≠ []) (nothing : disk.at? temporary = none)
    (ordinary : p.name ≠ "" ∧ p.name ≠ "..") (isFile : (disk.file? (directory ++ [p.name])).isSome = true)
    (octets : List UInt8) :
    ((disk.put temporary (.file [])).put temporary (.file octets)).rename temporary directory p.name =
      .ok (disk.put (directory ++ [p.name]) (.file octets)) := by
  have insideTarget : directory ++ [p.name] ≠ [] := List.append_ne_nil_of_right_ne_nil _ (List.cons_ne_nil _ _)
  obtain ⟨before, isFile⟩ := Option.isSome_iff_exists.1 isFile
  have there : (disk.at? (directory ++ [p.name])).isSome = true := by
    rw [Disk.file?] at isFile
    obtain ⟨e, there, -⟩ := Option.bind_eq_some_iff.1 isFile
    rw [there]
    rfl
  have apart : directory ++ [p.name] ≠ temporary := by
    intro same
    rw [same, nothing] at there
    cases there
  have busy : (p.name == ".." || p.name == "") = false := by simp [ordinary.1, ordinary.2]
  have free : (disk.put temporary (.file octets)).isDirectory (directory ++ [p.name]) = false := by
    rw [Disk.isDirectory, Disk.entry_put inside, if_neg apart]
    refine beq_false_of_ne fun directory => ?_
    rw [Disk.file?, directory] at isFile
    cases isFile
  rw [Disk.put_put, Disk.rename, busy, if_neg (by decide)]
  simp only [free, Bool.false_eq_true, if_false]
  rw [Disk.entry_put inside, if_pos rfl]
  simp only
  rw [← Disk.put_comm insideTarget apart _ _ there, Disk.remove_put inside]
  rw [Disk.entry_put insideTarget, if_neg apart.symm, nothing]

theorem replace_of_grants (grants : host.Grants m.disk) (suits : Suits p contents)
    (isFile : (m.disk.file? (directory ++ [p.name])).isSome = true) :
    ∃ m', replace host directory p contents m = (m', .ok ()) ∧
      m'.disk = m.disk.put (directory ++ [p.name]) (.file (Text.Utf8.encode contents.toList)) := by
  obtain ⟨opened, temporary, create⟩ := Host.createBeside_of_grants grants suits.beside directory
  obtain ⟨-, nothing, created, -⟩ := Host.createBeside_ok create
  have inside : temporary ≠ [] := (Machine.Aside.created create).inside
  obtain ⟨filled, fills, full⟩ : ∃ m', fill host p temporary contents opened = (m', .ok ()) ∧
      m'.disk = opened.disk.put temporary (.file (Text.Utf8.encode contents.toList)) :=
    fill_of_willing grants.willing suits.whole
  have moved := rename_over inside nothing suits.ordinary isFile (Text.Utf8.encode contents.toList)
  rw [← created, ← full] at moved
  obtain ⟨settled, settles, last⟩ := settle_of_willing grants.willing moved
  refine ⟨settled, ?_, last⟩
  rw [replace, suits.name]
  simp only [Bool.not_true, Bool.false_eq_true, if_false, create, fills, settles]

/-- A file that is there is written again. -/
theorem file_of_grants (grants : host.Grants m.disk) (suits : Suits p contents) (stands : Stands m.disk workdir p) :
    ∃ m', file host workdir p contents m = (m', .ok ()) ∧
      m'.disk = m.disk.put (p.resolve workdir) (.file (Text.Utf8.encode contents.toList)) := by
  have missing : m.disk.missing workdir p.parent = 0 := stands.leads.missingAlong
  obtain ⟨made, makes, same⟩ := Host.makeAlong_of_leads grants.willing stands.leads suits.segments
  have makes : host.makeDirectory workdir p.parent m = (made, .ok (p.parent.resolve workdir)) := by
    rw [Host.makeDirectory, suits.short, if_neg (by decide)]
    exact makes
  have whole := Path.resolve_eq_concat suits.ordinary.1 suits.ordinary.2 workdir
  rw [whole, ← same]
  have isFile := stands.isFile
  rw [whole, ← same] at isFile
  obtain ⟨written, writes, last⟩ := replace_of_grants (same ▸ grants) suits isFile
  refine ⟨written, ?_, last⟩
  rw [file, suits.parent, suits.short]
  simp only [missing, makes, writes, Bool.not_true, Bool.false_eq_true, if_false, Nat.not_lt_zero, decide_false,
    Bool.and_false]

theorem latest_of_mem {each : PlannedFile} (inside : each ∈ planned) :
    ∃ contents, latest? workdir outDir planned (each.place workdir outDir) = some contents := by
  unfold latest?
  cases found : planned.reverse.find? (·.place workdir outDir == each.place workdir outDir) with
  | none =>
      have apart := List.find?_eq_none.1 found each (List.mem_reverse.2 inside)
      exact absurd (beq_self_eq_true _) apart
  | some last => exact ⟨last.contents, rfl⟩

theorem after_of_latest (before : Place → Option (List UInt8))
    (last : latest? workdir outDir planned place = some contents) :
    after before workdir outDir planned place = some (Text.Utf8.encode contents.toList) := by
  rw [after, last]

/-- Whatever is put in a place, once the place is written again it is as if it had not been. -/
theorem overwrite_put (files : ∀ each ∈ planned, (disk.file? (each.place workdir outDir)).isSome = true)
    (later : ∃ each ∈ planned, each.place workdir outDir = place) (e : Entry) :
    overwrite workdir outDir planned (disk.put place e) = overwrite workdir outDir planned disk := by
  induction planned generalizing disk with
  | nil =>
      obtain ⟨each, impossible, -⟩ := later
      exact absurd impossible List.not_mem_nil
  | cons first rest ih =>
      obtain ⟨isFile, filesRest⟩ := List.forall_mem_cons.1 files
      rw [overwrite, List.foldl_cons, overwrite, List.foldl_cons]
      by_cases here : first.place workdir outDir = place
      · rw [here, Disk.put_put]
      obtain ⟨each, member, same⟩ := later
      have below : each ∈ rest := (List.mem_cons.1 member).resolve_left fun equal => here (equal ▸ same)
      have isFilePlace := same ▸ files each member
      obtain ⟨octets, held⟩ := Option.isSome_iff_exists.1 isFilePlace
      have there : (disk.at? place).isSome = true := by
        rw [Disk.at_of_file held]
        rfl
      rw [Disk.put_comm (Disk.ne_nil_of_file isFilePlace) (fun equal => here equal.symm) _ _ there]
      refine ih (fun other inside => ?_) ⟨each, below, same⟩
      rw [Disk.file_put (Disk.ne_nil_of_file isFile), Function.update_apply]
      split
      · rfl
      · exact filesRest other inside

/-- A disk that holds what is planned last for every place stays as it is. -/
theorem overwrite_eq_self {before : Place → Option (List UInt8)}
    (holds : disk.file? = after before workdir outDir planned) : overwrite workdir outDir planned disk = disk := by
  induction planned generalizing before with
  | nil => rfl
  | cons first rest ih =>
      have holdsRest := holds
      rw [after_cons] at holdsRest
      have goesOn : overwrite workdir outDir rest disk = disk := ih holdsRest
      rw [overwrite, List.foldl_cons]
      by_cases later : ∃ each ∈ rest, each.place workdir outDir = first.place workdir outDir
      · refine (overwrite_put (fun each inside => ?_) later _).trans goesOn
        obtain ⟨contents, last⟩ := latest_of_mem inside
        rw [holdsRest, after_of_latest _ last]
        rfl
      · have last : latest? workdir outDir rest (first.place workdir outDir) = none := by
          refine Option.map_eq_none_iff.2 (List.find?_eq_none.2 fun each inside same => later ?_)
          exact ⟨each, List.mem_reverse.1 inside, eq_of_beq same⟩
        have held : disk.file? (first.place workdir outDir) = some (Text.Utf8.encode first.contents.toList) := by
          rw [holdsRest, after, last]
          exact Function.update_self _ _ _
        have inside : first.place workdir outDir ≠ [] := Disk.ne_nil_of_file (Option.isSome_of_eq_some held)
        rw [Disk.put_eq_self inside (Disk.at_of_file held)]
        exact goesOn

theorem course_of_grants (grants : host.Grants m.disk)
    (heard : ∀ each ∈ planned, listener (note (target outDir each)) = none)
    (stands : ∀ each ∈ planned,
      Suits (target outDir each) each.contents ∧ Stands m.disk workdir (target outDir each)) :
    (course (file host workdir) listener outDir planned m).written = .ok (planned.map (target outDir)) ∧
      (course (file host workdir) listener outDir planned m).disk = overwrite workdir outDir planned m.disk := by
  induction planned generalizing m with
  | nil => exact ⟨rfl, rfl⟩
  | cons first rest ih =>
      obtain ⟨heardFirst, heardRest⟩ := List.forall_mem_cons.1 heard
      obtain ⟨⟨suits, standsFirst⟩, standsRest⟩ := List.forall_mem_cons.1 stands
      obtain ⟨next, written, last⟩ := file_of_grants grants suits standsFirst
      have isFile := standsFirst.isFile
      have inside := Disk.ne_nil_of_file isFile
      obtain ⟨octets, held⟩ := Option.isSome_iff_exists.1 isFile
      have entries (place : Place) : next.disk.at? place =
          if place = (target outDir first).resolve workdir then some (.file (Text.Utf8.encode first.contents.toList))
          else m.disk.at? place := by
        rw [last, Disk.entry_put inside]
      -- Only a file took the place of a file, so what stands for the later files still does, and the host still grants.
      have keeps : m.disk.KeepsDirectories next.disk := by
        intro place isDirectory
        rw [Disk.isDirectory_iff] at isDirectory ⊢
        have apart : place ≠ (target outDir first).resolve workdir := by
          rintro rfl
          rw [Disk.at_of_file held] at isDirectory
          cases isDirectory
        rw [entries, if_neg apart, isDirectory]
      have grantsNext : host.Grants next.disk := grants.of_places fun place nothing => by
        have apart : place ≠ (target outDir first).resolve workdir := by
          rintro rfl
          rw [Disk.at_of_file held] at nothing
          cases nothing
        rw [entries, if_neg apart, nothing]
      obtain ⟨all, disk⟩ := ih grantsNext heardRest fun each member =>
        ⟨(standsRest each member).1, (standsRest each member).2.mono keeps (file_keeps_files written)⟩
      simp only [course, written, heardFirst, all]
      refine ⟨rfl, disk.trans ?_⟩
      rw [last]
      rfl

/--
Writing again. Where files were written once they can be written again, and nothing on the disk changes then. And
whatever two disks held, if the same files can be written on both then each of them holds the same on both.
-/
theorem files_again (listener : Noted.Listener) (disk : Disk) (workdir : Place) (outDir : String)
    (planned : List PlannedFile) (host : Host) (paths : List Path)
    (done : (files listener disk workdir outDir planned host).written = .ok paths) :
    (∀ host' : Host, disk.Grounded workdir →
        host'.Grants (files listener disk workdir outDir planned host).disk →
        (files listener (files listener disk workdir outDir planned host).disk workdir outDir planned host').written =
            .ok paths ∧
          (files listener (files listener disk workdir outDir planned host).disk workdir outDir planned host').disk =
            (files listener disk workdir outDir planned host).disk) ∧
      ∀ (host' : Host) (listener' : Noted.Listener) (disk' : Disk) (paths' : List Path),
        (files listener' disk' workdir outDir planned host').written = .ok paths' →
        ∀ each ∈ planned, ∃ octets,
          (files listener disk workdir outDir planned host).disk.file? (each.place workdir outDir) = some octets ∧
          (files listener' disk' workdir outDir planned host').disk.file? (each.place workdir outDir) =
            some octets := by
  have holds := course_files done
  constructor
  · intro host' grounded grants
    obtain ⟨-, stands⟩ := course_grounded (m := ⟨disk, []⟩) grounded done
    obtain ⟨all, last⟩ := course_of_grants (m := ⟨_, []⟩) grants (course_heard done) stands
    rw [written_course done]
    exact ⟨all, last.trans (overwrite_eq_self holds)⟩
  · intro host' listener' disk' paths' done' each inside
    obtain ⟨contents, last⟩ := latest_of_mem inside
    exact ⟨_, (congrFun holds _).trans (after_of_latest _ last),
      (congrFun (course_files done') _).trans (after_of_latest _ last)⟩

/-- Two texts for one file, and a file in a directory of its own between them. -/
private def shared : List PlannedFile := [⟨"a.ts", "one"⟩, ⟨"b/c.ts", "two"⟩, ⟨"./a.ts", "three"⟩]

/-- What a run that was broken off left behind. -/
private def leftover : Disk :=
  ⟨[(["out"], .directory), (["out", "a.ts"], .file [0]), (["out", temporaryName "a.ts" 0], .file [1])]⟩

theorem shared_again :
    let first := files .open leftover [] "out" shared
    leftover.Grounded [] ∧ first.written = .ok (shared.map (target "out")) ∧ ({} : Host).Grants first.disk ∧
      (files .open first.disk [] "out" shared).disk = first.disk ∧
      (files .open .empty [] "out" shared).written = .ok (shared.map (target "out")) ∧
      first.disk.file? ["out", "a.ts"] = (files .open .empty [] "out" shared).disk.file? ["out", "a.ts"] := by
  have grounded : leftover.Grounded [] := Disk.Grounded.of_entries (by decide) rfl
  have done : (files .open leftover [] "out" shared).written = .ok (shared.map (target "out")) := by
    with_unfolding_all rfl
  have clean : (files .open .empty [] "out" shared).written = .ok (shared.map (target "out")) := by
    with_unfolding_all rfl
  have few : (files .open leftover [] "out" shared).disk.entries.length = 5 := by
    with_unfolding_all rfl
  have grants : ({} : Host).Grants (files .open leftover [] "out" shared).disk :=
    Host.grants_of_few (lt_of_eq_of_lt few (by decide))
  obtain ⟨again, same⟩ := files_again .open leftover [] "out" shared {} _ done
  obtain ⟨octets, left, right⟩ := same {} .open .empty _ clean ⟨"a.ts", "one"⟩ List.mem_cons_self
  exact ⟨grounded, done, grants, (again {} grounded grants).2, clean, left.trans right.symm⟩

end QueryHooks.Write
