import QueryHooks.Proofs.Bundle.Kept
import QueryHooks.Proofs.Reference.Keys

/-!
Reading a bundled document again. A reference that bundling keeps is copied from the document it was written in,
and whoever reads the bundled document reads it in the root document. It designates there what it designated
where it was written exactly if its location means the same document in both.
-/

namespace QueryHooks

namespace Reference

variable {workdir : Place} {document document' reference : String} {target : Target}

/-- A reference designates a target in another document exactly if its location means the target's document there. -/
theorem target_iff_locate (named : target? workdir document reference = some target) :
    target? workdir document' reference = some target ↔
      locate? workdir document' (locationOf reference) = some target.document := by
  obtain ⟨key, isKey, rfl⟩ := Option.map_eq_some_iff.1 named
  refine ⟨fun again => ?_, fun found => Option.map_eq_some_iff.2 ⟨key, found, rfl⟩⟩
  obtain ⟨key', isKey', same⟩ := Option.map_eq_some_iff.1 again
  exact isKey'.trans (congrArg some (congrArg Target.document same))

theorem locate_of_target (named : target? workdir document reference = some target) :
    locate? workdir document (locationOf reference) = some target.document :=
  (target_iff_locate named).1 named

end Reference

namespace Bundle

open Value (Location)

variable {b : Bundle}

namespace Spot

/-- Where a walk comes to a reference that is kept, it sees that reference. -/
theorem sight_of_walk {c s : Spot b} {location : Location} (came : c.walk? location = some s) (kept : s.lead = .kept) :
    c.sight location = .kept s.value := by
  induction location generalizing c with
  | nil =>
      cases came
      rw [sight, kept]
  | cons step rest ih =>
      rw [walk?] at came
      cases lead : c.settle.lead with
      | inward =>
          rw [lead] at came
          obtain ⟨child, isChild, further⟩ := Option.bind_eq_some_iff.1 came
          rw [sight, lead]
          simp only [isChild]
          exact ih further
      | kept => rw [lead] at came; cases came
      | onward next => rw [lead] at came; cases came
      | stuck failure => rw [lead] at came; cases came

end Spot

theorem Visits.of_walk {c s : Spot b} {steps : Nat} (visited : b.Visits steps c) {location : Location}
    (came : c.walk? location = some s) : ∃ steps, b.Visits steps s := by
  induction location generalizing c steps with
  | nil =>
      cases came
      exact visited.settle
  | cons step rest ih =>
      rw [Spot.walk?] at came
      obtain ⟨_, settled⟩ := visited.settle
      cases lead : c.settle.lead with
      | inward =>
          rw [lead] at came
          obtain ⟨child, isChild, further⟩ := Option.bind_eq_some_iff.1 came
          obtain ⟨i, -, inside⟩ := Option.bind_eq_some_iff.1 isChild
          exact ih (settled.part lead (List.mem_of_getElem? inside)) further
      | kept => rw [lead] at came; cases came
      | onward next => rw [lead] at came; cases came
      | stuck failure => rw [lead] at came; cases came

/-- Whether the references of the root document have no location, and so stay in it. -/
def StaysInside (b : Bundle) : Prop := ∀ reference ∈ b.root.references, Reference.locationOf reference = ""

/-- A walk along references without a location never leaves the root document. -/
theorem Visits.inside (inside : b.StaysInside) {steps : Nat} {c : Spot b} (visited : b.Visits steps c) :
    c.document = b.rootKey ∧ c.value.references ⊆ b.root.references := by
  induction visited with
  | root => exact ⟨rfl, List.Subset.refl _⟩
  | part _ _ isPart ih =>
      obtain ⟨sameDocument, -, below⟩ := Spot.of_mem_parts isPart
      exact ⟨sameDocument.trans ih.1, List.Subset.trans (Value.references_part below) ih.2⟩
  | @onward _ c next _ onward ih =>
      obtain ⟨reference, target, isReference, lands, -, sameDocument, -⟩ := Spot.exists_of_onward onward
      have located := Reference.locate_of_target lands.1
      rw [inside reference (ih.2 (Spot.reference_mem isReference)), Reference.locate_nothing] at located
      have atRoot : target.document = b.rootKey := (Option.some.inj located).symm.trans ih.1
      obtain ⟨whole, held, reached⟩ := part_ok_iff.1 lands.2
      have isRoot : whole = b.root := by
        rw [atRoot] at held
        exact Except.ok.inj (held.symm.trans b.holds_root)
      exact ⟨sameDocument.trans atRoot, isRoot ▸ Pointer.references_follow reached⟩

/--
A reference that is kept at a circle is copied as it was written, and designates in the root document what it
designated in its own exactly if that is the root document, or the reference has a location that means the same
document in both: between files, if the directories have in common what is left of them once the location has
climbed. So a bundled document is self-contained if all references stay in the root document.
-/
theorem kept_reads_again (trees : b.Trees) {out : Value} (done : b.run = .ok out) {location : Location} {s : Spot b}
    (came : b.start.walk? location = some s) (kept : s.lead = .kept) :
    out.at? location = some s.value ∧
    ∃ reference target, s.value.reference? = some reference ∧
      Reference.target? b.workdir s.document reference = some target ∧ target.key ∈ s.followed ∧
      (Reference.target? b.workdir b.rootKey reference = some target ↔
        s.document = b.rootKey ∨ Reference.locationOf reference ≠ "" ∧
          Reference.locate? b.workdir b.rootKey (Reference.locationOf reference) = some target.document) ∧
      (∀ root holder : Place, root.IsActual → holder.IsActual → b.rootKey = Path.placeText root →
        s.document = Path.placeText holder →
        (Reference.target? b.workdir b.rootKey reference = some target ↔
          Reference.MeansSame root holder (Reference.locationOf reference))) ∧
      (b.StaysInside → Reference.target? b.workdir b.rootKey reference = some target) := by
  have sight := Spot.sight_of_walk came kept
  have shown := run_shows_sight trees done location (by
    rw [sightAt, sight]
    exact fun other => by cases other)
  rw [sightAt, sight] at shown
  obtain ⟨reference, target, isReference, named, before⟩ := Spot.exists_of_kept kept
  have located := Reference.locate_of_target named
  refine ⟨shown, reference, target, isReference, named, before, ?_, ?_, ?_⟩
  · rw [Reference.target_iff_locate named]
    constructor
    · intro again
      by_cases given : Reference.locationOf reference = ""
      · rw [given, Reference.locate_nothing] at located again
        exact .inl (Option.some.inj (located.trans again.symm))
      · exact .inr ⟨given, again⟩
    · rintro (same | ⟨-, again⟩)
      · exact same ▸ located
      · exact again
  -- Between files the two places decide, once both documents are known by where they lie.
  · intro root holder rootActual holderActual isRoot isHolder
    rw [isHolder] at located
    rw [Reference.target_iff_locate named, isRoot, Reference.locate_iff_meansSame rootActual holderActual located]
  · intro inside
    obtain ⟨_, visited⟩ := Visits.root.of_walk came
    exact (visited.inside inside).1 ▸ named

/-- A document in another directory that refers to itself by a path that climbs out of there. -/
private def climbingLoop : Bundle where
  library := .ofDocuments [("/parts/x.json", .record [("again", Reference.value "../parts/x.json")])]
  workdir := []
  rootKey := "/api.json"
  root := .record [("a", Reference.value "parts/x.json")]

private def climbingLoopOut : Value :=
  .record [("a", .record [("again", Reference.value "../parts/x.json")])]

private def atAgain : Location := [.key (.text "a"), .key (.text "again")]

theorem climbingLoop_reads_again :
    climbingLoop.run = .ok climbingLoopOut ∧
      climbingLoopOut.at? atAgain = some (Reference.value "../parts/x.json") ∧
      Reference.target? [] "/api.json" "../parts/x.json" = some ⟨"/parts/x.json", ""⟩ := by
  have trees : climbingLoop.Trees := .of_documents rfl (by decide) (by decide)
  have done : climbingLoop.run = .ok climbingLoopOut :=
    run_of_resolveIn trees (.of_reach trees (by decide) (by decide))
      (show climbingLoop.start.resolveIn 10 = _ by with_unfolding_all rfl)
  have comes : (climbingLoop.start.walk? atAgain).map (fun s => (s.document, s.value)) =
      some ("/parts/x.json", Reference.value "../parts/x.json") := by
    with_unfolding_all rfl
  have leads : (climbingLoop.start.walk? atAgain).map Spot.lead = some .kept := by with_unfolding_all rfl
  obtain ⟨s, came, kept⟩ := Option.map_eq_some_iff.1 leads
  rw [came] at comes
  obtain ⟨isDocument, isValue⟩ := Prod.mk.inj (Option.some.inj comes)
  obtain ⟨copied, reference, target, isReference, named, -, -, between, -⟩ := kept_reads_again trees done came kept
  rw [isValue] at copied isReference
  cases isReference
  rw [isDocument] at named
  cases named
  have means : Reference.MeansSame ["api.json"] ["parts", "x.json"] (Reference.locationOf "../parts/x.json") := by
    decide
  exact ⟨done, copied, (between ["api.json"] ["parts", "x.json"] (by decide) (by decide) rfl isDocument).2 means⟩

/-- A part of another document that refers to itself without a location. -/
private def innerLoop : Bundle where
  library := .ofDocuments [("/other.json", .record [("x", .record [("self", Reference.value "#/x")])])]
  workdir := []
  rootKey := "/api.json"
  root := .record [("a", Reference.value "other.json#/x")]

private def innerLoopOut : Value := .record [("a", .record [("self", Reference.value "#/x")])]

/-- A reference that is kept can designate another target in the root document than where it was written. -/
theorem exists_kept_astray :
    ∃ (b : Bundle) (out : Value) (location : Location) (s : Spot b) (reference : String) (target : Target),
      b.Trees ∧ b.run = .ok out ∧ b.start.walk? location = some s ∧ s.lead = .kept ∧
      out.at? location = some (Reference.value reference) ∧
      Reference.target? b.workdir s.document reference = some target ∧
      Reference.target? b.workdir b.rootKey reference ≠ some target := by
  have trees : innerLoop.Trees := .of_documents rfl (by decide) (by decide)
  have done : innerLoop.run = .ok innerLoopOut :=
    run_of_resolveIn trees (.of_reach trees (by decide) (by decide))
      (show innerLoop.start.resolveIn 10 = _ by with_unfolding_all rfl)
  have leads : (innerLoop.start.walk? [.key (.text "a"), .key (.text "self")]).map Spot.lead = some .kept := by
    with_unfolding_all rfl
  have comes : (innerLoop.start.walk? [.key (.text "a"), .key (.text "self")]).map Spot.document =
      some "/other.json" := by
    with_unfolding_all rfl
  obtain ⟨s, came, kept⟩ := Option.map_eq_some_iff.1 leads
  rw [came] at comes
  refine ⟨innerLoop, innerLoopOut, _, s, "#/x", ⟨"/other.json", "/x"⟩, trees, done, came, kept, rfl, ?_, ?_⟩
  · rw [Option.some.inj comes]
    with_unfolding_all rfl
  · decide

end Bundle

end QueryHooks
