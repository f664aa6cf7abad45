import QueryHooks.Proofs.Bundle.Walk
import QueryHooks.Proofs.Value.All

/-!
Which references bundling leaves. Every mapping with a reference in the bundled document is one that a walk
through the sources came back to, or lies beside the reference of such a mapping, which is kept as it is.
-/

namespace QueryHooks.Bundle

open Value (Location)

variable {b : Bundle}

/-- Whether only texts stand under `$ref` in the documents. -/
def RefsAreTexts (b : Bundle) : Prop :=
  ∀ key document, b.Holds key document → ∀ w ∈ document.all, w.refIsText = true

theorem RefsAreTexts.of_documents {documents : List (String × Value)}
    (isLibrary : b.library = .ofDocuments documents) (root : ∀ w ∈ b.root.all, w.refIsText = true)
    (texts : ∀ entry ∈ documents, ∀ w ∈ entry.2.all, w.refIsText = true) : b.RefsAreTexts := by
  intro key document held
  unfold Holds answer at held
  split at held
  · cases held
    exact root
  · rw [isLibrary] at held
    exact texts _ (Library.mem_of_ofDocuments held)

theorem all_of_follow {document part : Value} {pointer : String} (tree : document.IsTree)
    (found : Pointer.follow document pointer = .ok part) : part.all ⊆ document.all := by
  unfold Pointer.follow at found
  split at found
  · next segments _ =>
      obtain ⟨location, _, here⟩ := (Pointer.walk_ok_iff tree).1 found
      exact Value.all_of_at here
  · cases found

namespace Visits

variable {steps : Nat} {c : Spot b}

theorem refIsText (trees : b.Trees) (texts : b.RefsAreTexts) (visited : b.Visits steps c) :
    ∀ w ∈ c.value.all, w.refIsText = true := by
  induction visited with
  | root => exact texts _ _ b.holds_root
  | part _ _ inside ih => exact fun w here => ih w (Value.all_part (Spot.of_mem_parts inside).2.2 here)
  | onward _ onward _ =>
      obtain ⟨_, _, _, lands, _⟩ := Spot.exists_of_onward onward
      obtain ⟨whole, held, reached⟩ := part_ok_iff.1 lands.2
      exact fun w here => texts _ _ held w (all_of_follow (trees.of_holds held) reached here)

theorem followed_nodup (visited : b.Visits steps c) : c.followed.Nodup := by
  induction visited with
  | root => exact List.nodup_nil
  | part _ _ inside ih => exact (Spot.of_mem_parts inside).2.1 ▸ ih
  | onward _ onward ih =>
      obtain ⟨_, _, _, _, fresh, _, sameFollowed⟩ := Spot.exists_of_onward onward
      rw [sameFollowed]
      exact List.nodup_cons.2 ⟨fresh, ih⟩

theorem settle (visited : b.Visits steps c) : ∃ steps, b.Visits steps c.settle := by
  induction c using Spot.induction generalizing steps with
  | step c _ next =>
      cases lead : c.lead with
      | onward c' =>
          rw [Spot.settle_of_onward lead]
          exact next c' lead (visited.onward lead)
      | _ =>
          rw [Spot.settle_eq_self (by simp [lead])]
          exact ⟨steps, visited⟩

end Visits

namespace Spot

/-- The spot that a walk through the sources comes to, if it is not kept from going on. -/
def walk? (c : Spot b) : Location → Option (Spot b)
  | [] => some c.settle
  | step :: rest =>
      match c.settle.lead with
      | .inward => (c.settle.child? step).bind fun child => child.walk? rest
      | _ => none

/-- A mapping with a reference in the value of a spot was kept as it stands in the sources, or lies in one that was. -/
theorem exists_kept (trees : b.Trees) (texts : b.RefsAreTexts) {c : Spot b} {steps : Nat}
    (visited : b.Visits steps c) {out w : Value} (done : c.resolve = .ok out) {location : Location}
    (found : out.at? location = some w) (named : w.get? "$ref" ≠ none) :
    ∃ before rest s, location = before ++ rest ∧ c.walk? before = some s ∧ s.lead = .kept ∧
      s.value.at? rest = some w := by
  induction location generalizing c steps out with
  | nil =>
      cases found
      rcases value_of_resolve done with ⟨inward, outs, resolved, same⟩ | ⟨kept, same⟩
      · -- What is gone into is no reference, and does not become one.
        obtain ⟨_, settled⟩ := visited.settle
        have isText := settled.refIsText trees texts _ (Value.mem_all_self _)
        have nothing := Value.get_eq_none isText (reference_of_inward inward)
        rw [← same] at named
        exact absurd (Value.get_withParts nothing (length_of_resolved resolved)) named
      · exact ⟨[], [], c.settle, rfl, rfl, kept, congrArg some same⟩
  | cons step rest ih =>
      rcases value_of_resolve done with ⟨inward, outs, resolved, same⟩ | ⟨kept, same⟩
      · obtain ⟨_, settled⟩ := visited.settle
        subst same
        obtain ⟨inner, here, below⟩ := Option.bind_eq_some_iff.1 found
        rw [Value.child_withParts (length_of_resolved resolved)] at here
        obtain ⟨i, place, outAt⟩ := Option.bind_eq_some_iff.1 here
        have each : c.settle.parts[i]?.map resolve = some (.ok inner) := by
          rw [← List.getElem?_map, resolved, List.getElem?_map, outAt]
          rfl
        obtain ⟨child, childAt, childDone⟩ := Option.map_eq_some_iff.1 each
        obtain ⟨before, rest', s, way, came, kept, lies⟩ :=
          ih (settled.part inward (List.mem_of_getElem? childAt)) childDone below
        refine ⟨step :: before, rest', s, congrArg (step :: ·) way, ?_, kept, lies⟩
        have isChild : c.settle.child? step = some child := by
          rw [child?, place, Option.bind_some, childAt]
        rw [walk?, inward]
        simp only [isChild, Option.bind_some]
        exact came
      · exact ⟨[], step :: rest, c.settle, rfl, rfl, kept, same ▸ found⟩

end Spot

end QueryHooks.Bundle
