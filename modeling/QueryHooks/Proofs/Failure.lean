import QueryHooks.Failure

/-! Computations that can fail: what is said of their results and of their failures, step by step. -/

namespace QueryHooks

variable {ε α β : Type} {computed : Except ε α} {b : β}

theorem exists_of_bind {next : α → Except ε β} (done : computed >>= next = .ok b) :
    ∃ a, computed = .ok a ∧ next a = .ok b := by
  cases computed with
  | error failure => cases done
  | ok a => exact ⟨a, rfl, done⟩

/-- What holds of the result of a computation, if it has one, and of its failure, if it fails. -/
structure Ends (computed : Except ε α) (good : α → Prop) (bad : ε → Prop) : Prop where
  done : ∀ a, computed = .ok a → good a
  failed : ∀ failure, computed = .error failure → bad failure

namespace Ends

variable {good : α → Prop} {better : β → Prop} {bad : ε → Prop}

theorem ok {a : α} (isGood : good a) : Ends (.ok a) good bad where
  done _ same := Except.ok.inj same ▸ isGood
  failed _ same := by cases same

theorem error {failure : ε} (isBad : bad failure) : Ends (.error failure) good bad where
  done _ same := by cases same
  failed _ same := Except.error.inj same ▸ isBad

theorem bind (ends : Ends computed good bad) {next : α → Except ε β} (goesOn : ∀ a, good a → Ends (next a) better bad) :
    Ends (computed >>= next) better bad := by
  cases computed with
  | error failure => exact .error (ends.failed failure rfl)
  | ok a => exact goesOn a (ends.done a rfl)

theorem mono {weaker : α → Prop} (ends : Ends computed good bad) (weaken : ∀ a, good a → weaker a) :
    Ends computed weaker bad where
  done a same := weaken a (ends.done a same)
  failed := ends.failed

theorem map (ends : Ends computed good bad) {f : α → β} (keeps : ∀ a, good a → better (f a)) :
    Ends (computed.map f) better bad := by
  cases computed with
  | error failure => exact .error (ends.failed failure rfl)
  | ok a => exact .ok (keeps a (ends.done a rfl))

/-- What each step of a fold keeps, the fold keeps. -/
theorem foldlM {step : α → β → Except ε α} {items : List β} {start : α} (starts : good start)
    (keeps : ∀ a item, item ∈ items → good a → Ends (step a item) good bad) :
    Ends (items.foldlM step start) good bad := by
  induction items generalizing start with
  | nil => exact .ok starts
  | cons item rest ih =>
      rw [List.foldlM_cons]
      apply (keeps start item List.mem_cons_self starts).bind
      intro a isGood
      exact ih isGood fun a other later => keeps a other (List.mem_cons_of_mem _ later)

end Ends

/-- Whether a failure is the fault of a description. -/
def Failure.OfSpec (failure : Failure) : Prop := ∃ problem, failure = .spec problem

/-- Whether a computation has a result, or finds fault with the description. -/
def Reported (computed : Except Failure α) : Prop := Ends computed (fun _ => True) Failure.OfSpec

namespace Reported

variable {computed : Except Failure α}

theorem ok (a : α) : Reported (.ok a : Except Failure α) := Ends.ok trivial

theorem spec (problem : SpecProblem) : Reported (.error (.spec problem) : Except Failure α) := Ends.error ⟨problem, rfl⟩

theorem bind (reported : Reported computed) {next : α → Except Failure β} (goesOn : ∀ a, Reported (next a)) :
    Reported (computed >>= next) :=
  Ends.bind reported fun a _ => goesOn a

theorem map (reported : Reported computed) (f : α → β) : Reported (computed.map f) :=
  Ends.map reported fun _ _ => trivial

end Reported

/-- Whether a computation has a result if a condition holds, and finds fault with the description otherwise. -/
def Decides (computed : Except Failure α) (holds : Prop) : Prop :=
  Ends computed (fun _ => holds) fun failure => failure.OfSpec ∧ ¬ holds

namespace Decides

variable {computed : Except Failure α} {first second holds : Prop}

theorem ok (isSo : holds) (a : α) : Decides (.ok a) holds := Ends.ok isSo

theorem spec (isNot : ¬ holds) (problem : SpecProblem) : Decides (.error (.spec problem) : Except Failure α) holds :=
  Ends.error ⟨⟨problem, rfl⟩, isNot⟩

theorem congr (decides : Decides computed first) (same : first ↔ second) : Decides computed second where
  done a isDone := same.1 (decides.done a isDone)
  failed failure isFailed := ⟨(decides.failed failure isFailed).1, mt same.2 (decides.failed failure isFailed).2⟩

/-- One step after another decides both conditions. -/
theorem bind (decides : Decides computed first) {next : α → Except Failure β}
    (goesOn : ∀ a, Decides (next a) second) : Decides (computed >>= next) (first ∧ second) := by
  cases isComputed : computed with
  | error failure =>
      obtain ⟨ofSpec, isNot⟩ := decides.failed failure isComputed
      exact .error ⟨ofSpec, fun both => isNot both.1⟩
  | ok a => exact (goesOn a).congr ⟨fun last => ⟨decides.done a isComputed, last⟩, And.right⟩

/-- A step that always has a result decides nothing. -/
theorem after (sure : Decides computed True) {next : α → Except Failure β} (goesOn : ∀ a, Decides (next a) holds) :
    Decides (computed >>= next) holds :=
  (sure.bind goesOn).congr (Iff.of_eq (true_and _))

/-- Nor does a last step that only puts the result together. -/
theorem bind_pure (decides : Decides computed holds) (f : α → β) : Decides (computed >>= fun a => pure (f a)) holds :=
  (decides.bind fun a => ok trivial (f a)).congr (Iff.of_eq (and_true _))

theorem map (decides : Decides computed holds) (f : α → β) : Decides (computed.map f) holds := by
  cases isComputed : computed with
  | error failure => exact .error (decides.failed failure isComputed)
  | ok a => exact .ok (decides.done a isComputed) (f a)

theorem reported (decides : Decides computed holds) : Reported computed where
  done _ _ := trivial
  failed failure isFailed := (decides.failed failure isFailed).1

theorem ok_iff (decides : Decides computed holds) : (∃ a, computed = .ok a) ↔ holds := by
  constructor
  · rintro ⟨a, isDone⟩
    exact decides.done a isDone
  · intro isSo
    cases isComputed : computed with
    | error failure => exact absurd isSo (decides.failed failure isComputed).2
    | ok a => exact ⟨a, rfl⟩

theorem spec_iff (decides : Decides computed holds) : (∃ problem, computed = .error (.spec problem)) ↔ ¬ holds := by
  constructor
  · rintro ⟨problem, isFailed⟩
    exact (decides.failed _ isFailed).2
  · intro isNot
    cases isComputed : computed with
    | error failure =>
        obtain ⟨problem, rfl⟩ := (decides.failed failure isComputed).1
        exact ⟨problem, rfl⟩
    | ok a => exact absurd (decides.done a isComputed) isNot

end Decides

end QueryHooks
