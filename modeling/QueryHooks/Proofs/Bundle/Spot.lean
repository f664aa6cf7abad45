import QueryHooks.Bundle.Inline
import QueryHooks.Proofs.Value.Tree

/-!
Bundling trees without its memory and its limits: a spot is a value of a document with the targets
that are being followed there, `lead` says what is done at a spot, and all that bundling meets and
yields is derived from it.
-/

namespace QueryHooks

namespace Bundle

open Value (references_part sizeOf_part)

variable {b : Bundle}

/-- What lies at a target, or why nothing does. -/
def part (b : Bundle) (reference : String) (target : Target) : Except Failure Value :=
  match b.answer target.document with
  | .error failure => .error (blame reference failure)
  | .ok whole =>
      match Pointer.follow whole target.pointer with
      | .error problem => .error (.spec (.pointer reference problem))
      | .ok part => .ok part

theorem part_ok_iff {reference : String} {target : Target} {v : Value} :
    b.part reference target = .ok v ↔
      ∃ whole, b.Holds target.document whole ∧ Pointer.follow whole target.pointer = .ok v := by
  unfold part Holds
  cases held : b.answer target.document with
  | error failure => simp
  | ok whole => cases reached : Pointer.follow whole target.pointer <;> simp [reached]

theorem known_of_part {reference : String} {target : Target} {v : Value}
    (found : b.part reference target = .ok v) :
    b.Known target.document v := by
  obtain ⟨whole, held, reached⟩ := part_ok_iff.1 found
  exact (Known.of_holds held).mono (Pointer.references_follow reached)

/-- Whether a reference of a document names a target, and this value lies there. -/
def Lands (b : Bundle) (document reference : String) (target : Target) (v : Value) : Prop :=
  Reference.target? b.workdir document reference = some target ∧ b.part reference target = .ok v

/-- A value of a document, and the targets that were followed on the way to it. -/
@[ext]
structure Spot (b : Bundle) where
  document : String
  followed : List String
  value : Value
  known : b.Known document value

theorem known_root (b : Bundle) : b.Known b.rootKey b.root := Known.of_holds b.holds_root

/-- The root, before anything is followed. -/
def start (b : Bundle) : Spot b := ⟨b.rootKey, [], b.root, b.known_root⟩

/-- What there is to do at a spot: go into its parts, leave a reference as it is, follow it, or give up. -/
inductive Lead (b : Bundle)
  | inward
  | kept
  | onward (next : Spot b)
  | stuck (failure : Failure)

namespace Spot

def parts (c : Spot b) : List (Spot b) :=
  c.value.parts.attach.map fun part => ⟨c.document, c.followed, part.1,
  c.known.mono (references_part part.2)⟩

def reference? (c : Spot b) : Option String := c.value.reference?

def lead (c : Spot b) : Lead b :=
  match c.reference? with
  | none => .inward
  | some reference =>
      match Reference.target? b.workdir c.document reference with
      | none => .stuck .unexpected
      | some target =>
          if target.key ∈ c.followed then .kept
          else
            match found : b.part reference target with
            | .error failure => .stuck failure
            | .ok v => .onward ⟨target.document, target.key :: c.followed, v, known_of_part found⟩

theorem map_value_parts (c : Spot b) : c.parts.map (·.value) = c.value.parts := by
  have whole := @List.attach_map_val _ _ c.value.parts id
  rw [List.map_id] at whole
  rw [parts, List.map_map]
  exact whole

theorem exists_part (c : Spot b) {v : Value} (inside : v ∈ c.value.parts) :
    ∃ part ∈ c.parts, part.value = v := by
  rw [← c.map_value_parts] at inside
  exact List.mem_map.1 inside

theorem of_mem_parts {c part : Spot b} (inside : part ∈ c.parts) :
    part.document = c.document ∧ part.followed = c.followed ∧ part.value ∈ c.value.parts := by
  obtain ⟨v, _, same⟩ := List.mem_map.1 inside
  subst same
  exact ⟨rfl, rfl, v.2⟩

theorem reference_mem {c : Spot b} {reference : String}
    (isReference : c.reference? = some reference) :
    reference ∈ c.value.references := by
  rw [reference?] at isReference
  cases isValue : c.value with
  | map entries =>
      rw [isValue] at isReference
      have isReference : Reference.of? entries = some reference := isReference
      rw [Value.references, isReference]
      exact List.mem_append_left _ List.mem_cons_self
  | _ => rw [isValue] at isReference; cases isReference

/-! When a spot has which lead -/

section Lead

variable {c next : Spot b} {reference : String} {target : Target} {failure : Failure}

theorem lead_of_none (none : c.reference? = none) : c.lead = .inward := by
  rw [lead, none]

theorem lead_of_unnamed (isReference : c.reference? = some reference)
    (unnamed : Reference.target? b.workdir c.document reference = none) :
    c.lead = .stuck .unexpected := by
  rw [lead, isReference]
  simp only [unnamed]

theorem lead_of_followed (isReference : c.reference? = some reference)
    (named : Reference.target? b.workdir c.document reference = some target)
    (before : target.key ∈ c.followed) :
    c.lead = .kept := by
  rw [lead, isReference]
  simp only [named, if_pos before]

theorem lead_of_missing (isReference : c.reference? = some reference)
    (named : Reference.target? b.workdir c.document reference = some target)
    (fresh : target.key ∉ c.followed) (missing : b.part reference target = .error failure) :
    c.lead = .stuck failure := by
  rw [lead, isReference]
  simp only [named, if_neg fresh]
  split
  · next other => rw [missing] at other; injection other with same; rw [same]
  · next found => rw [missing] at found; cases found

theorem lead_of_lands (isReference : c.reference? = some reference)
    (lands : b.Lands c.document reference target next.value) (fresh : target.key ∉ c.followed)
    (sameDocument : next.document = target.document)
    (sameFollowed : next.followed = target.key :: c.followed) :
    c.lead = .onward next := by
  rw [lead, isReference]
  simp only [lands.1, if_neg fresh]
  split
  · next missing => rw [lands.2] at missing; cases missing
  · next v found =>
      rw [lands.2] at found
      injection found with same
      congr 1
      exact Spot.ext sameDocument.symm sameFollowed.symm same.symm

theorem exists_onward {v : Value} (isReference : c.reference? = some reference)
    (lands : b.Lands c.document reference target v) (fresh : target.key ∉ c.followed) :
    ∃ next, c.lead = .onward next ∧ next.document = target.document ∧
    next.followed = target.key :: c.followed ∧
      next.value = v := by
  let next : Spot b := ⟨target.document, target.key :: c.followed, v, known_of_part lands.2⟩
  have lead : c.lead = .onward next := lead_of_lands isReference lands fresh rfl rfl
  exact ⟨next, lead, rfl, rfl, rfl⟩

/-- Whatever a spot is, one of these five holds, and it decides the lead. -/
theorem lead_cases (c : Spot b) :
    (c.reference? = none ∧ c.lead = .inward) ∨
    (∃ reference, c.reference? = some reference ∧
      ((Reference.target? b.workdir c.document reference = none ∧ c.lead = .stuck .unexpected) ∨
       (∃ target, Reference.target? b.workdir c.document reference = some target ∧
        ((target.key ∈ c.followed ∧ c.lead = .kept) ∨
         (target.key ∉ c.followed ∧
          ((∃ failure, b.part reference target = .error failure ∧ c.lead = .stuck failure) ∨
           (∃ next,
           b.Lands c.document reference target next.value ∧ next.document = target.document ∧
              next.followed = target.key :: c.followed ∧ c.lead = .onward next))))))) := by
  cases isReference : c.reference? with
  | none => exact .inl ⟨rfl, lead_of_none isReference⟩
  | some reference =>
      refine .inr ⟨reference, rfl, ?_⟩
      cases named : Reference.target? b.workdir c.document reference with
      | none => exact .inl ⟨rfl, lead_of_unnamed isReference named⟩
      | some target =>
          refine .inr ⟨target, rfl, ?_⟩
          by_cases before : target.key ∈ c.followed
          · exact .inl ⟨before, lead_of_followed isReference named before⟩
          · refine .inr ⟨before, ?_⟩
            cases found : b.part reference target with
            | error failure => exact .inl ⟨failure, rfl,
                lead_of_missing isReference named before found⟩
            | ok v =>
                let next : Spot b := ⟨target.document, target.key :: c.followed, v,
                  known_of_part found⟩
                have lands : b.Lands c.document reference target next.value := ⟨named, found⟩
                exact .inr ⟨next, lands, rfl, rfl, lead_of_lands isReference lands before rfl rfl⟩

theorem reference_of_inward (inward : c.lead = .inward) : c.reference? = none := by
  rcases lead_cases c with ⟨none, _⟩ | ⟨_, _,
    ⟨_, other⟩ | ⟨_, _, ⟨_, other⟩ | ⟨_, ⟨_, _, other⟩ | ⟨_, _, _, _, other⟩⟩⟩⟩
  · exact none
  all_goals rw [inward] at other; cases other

theorem exists_of_kept (kept : c.lead = .kept) :
    ∃ reference target, c.reference? = some reference ∧
      Reference.target? b.workdir c.document reference = some target ∧ target.key ∈ c.followed := by
  rcases lead_cases c with ⟨_, other⟩ | ⟨reference, isReference,
    ⟨_, other⟩ | ⟨target, named, ⟨before, _⟩ |
    ⟨_, ⟨_, _, other⟩ | ⟨_, _, _, _, other⟩⟩⟩⟩
  case inr.inr.inl => exact ⟨reference, target, isReference, named, before⟩
  all_goals rw [kept] at other; cases other

theorem exists_of_onward (onward : c.lead = .onward next) :
    ∃ reference target, c.reference? = some reference ∧
    b.Lands c.document reference target next.value ∧
      target.key ∉ c.followed ∧ next.document = target.document ∧
      next.followed = target.key :: c.followed := by
  rcases lead_cases c with ⟨_, other⟩ | ⟨reference, isReference,
    ⟨_, other⟩ | ⟨target, _, ⟨_, other⟩ |
    ⟨fresh, ⟨_, _, other⟩ | ⟨next', lands, sameDocument, sameFollowed, same⟩⟩⟩⟩
  case inr.inr.inr.inr =>
    rw [onward] at same
    injection same with same
    subst same
    exact ⟨reference, target, isReference, lands, fresh, sameDocument, sameFollowed⟩
  all_goals rw [onward] at other; cases other

theorem exists_of_stuck (stuck : c.lead = .stuck failure) :
    ∃ reference, c.reference? = some reference ∧
      ((Reference.target? b.workdir c.document reference = none ∧ failure = .unexpected) ∨
        ∃ target, Reference.target? b.workdir c.document reference = some target ∧
        target.key ∉ c.followed ∧
          b.part reference target = .error failure) := by
  rcases lead_cases c with ⟨_, other⟩ | ⟨reference, isReference,
    ⟨unnamed, same⟩ | ⟨target, named, ⟨_, other⟩ |
    ⟨fresh, ⟨failure', missing, same⟩ | ⟨_, _, _, _, other⟩⟩⟩⟩
  case inr.inl =>
    rw [stuck] at same
    injection same with same
    exact ⟨reference, isReference, .inl ⟨unnamed, same⟩⟩
  case inr.inr.inr.inl =>
    rw [stuck] at same
    injection same with same
    subst same
    exact ⟨reference, isReference, .inr ⟨target, named, fresh, missing⟩⟩
  all_goals rw [stuck] at other; cases other

theorem unseen_of_onward (onward : c.lead = .onward next) :
    b.unseen next.followed < b.unseen c.followed := by
  obtain ⟨reference, target, isReference, lands, fresh, _, sameFollowed⟩ := exists_of_onward onward
  have inside : reference ∈ c.value.references := reference_mem isReference
  rw [sameFollowed]
  exact unseen_lt (c.known reference inside target lands.1) (by simpa using fresh)

end Lead

/-- What bundling calls itself on from a spot: its parts, or the spot behind a reference. -/
def Calls (c c' : Spot b) : Prop := (c.lead = .inward ∧ c' ∈ c.parts) ∨ c.lead = .onward c'

/-- Nothing calls itself on forever: a call uses up a target, or keeps them and goes into a part. -/
theorem calls_wellFounded : WellFounded fun c' c : Spot b => c.Calls c' := by
  refine Subrelation.wf ?_ (InvImage.wf (fun c : Spot b => (b.unseen c.followed, sizeOf c.value))
    (Prod.lex Nat.lt_wfRel Nat.lt_wfRel).wf)
  intro c' c calls
  rcases calls with ⟨_, inside⟩ | onward
  · obtain ⟨_, sameFollowed, inside⟩ := of_mem_parts inside
    rw [InvImage, sameFollowed]
    exact Prod.Lex.right _ (sizeOf_part inside)
  · exact Prod.Lex.left _ _ (unseen_of_onward onward)

/-- What holds of a spot when it holds of all that bundling calls itself on from there holds of every spot. -/
theorem induction {motive : Spot b → Prop}
    (step : ∀ c, (c.lead = .inward → ∀ part ∈ c.parts, motive part) →
      (∀ next, c.lead = .onward next → motive next) → motive c)
    (c : Spot b) : motive c :=
  calls_wellFounded.induction c fun c earlier =>
    step c (fun inward part inside => earlier part (.inl ⟨inward, inside⟩)) fun next onward =>
    earlier next (.inr onward)

end Spot

end Bundle

end QueryHooks
