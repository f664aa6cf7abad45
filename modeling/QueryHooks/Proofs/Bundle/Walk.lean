import QueryHooks.Proofs.Bundle.Termination

/-!
Walking through the sources, and through the bundled document. A walk through the sources follows
each reference it comes to, in the document the reference is written in, until it comes to one that
it has followed before. In the bundled document the same steps lead to the same sight, with no
reference to follow.
-/

namespace QueryHooks

open Value (Step Location)

/-- What a value is at first sight: a scalar, a list of some length, or a mapping with some keys. -/
inductive Face
  | scalar (v : Value)
  | list (length : Nat)
  | map (keys : List Value)
deriving Repr

/--
What a walk through the sources comes to: nothing, a value, a reference that it leaves as it is, a
place below one, or a reference that leads nowhere.
-/
inductive Sight
  | nothing
  | value (face : Face)
  | kept (reference : Value)
  | beyond
  | dangling
deriving Repr

namespace Value

def face : Value → Face
  | .list items => .list items.length
  | .map entries => .map (entries.map Prod.fst)
  | v => .scalar v

theorem face_withParts {v : Value} {outs : List Value} (same : outs.length = v.parts.length) :
    (v.withParts outs).face = v.face := by
  cases v with
  | list items => exact congrArg Face.list same
  | map entries =>
      have bound : (entries.map Prod.fst).length ≤ outs.length :=
        Nat.le_of_eq (by rw [same, parts, List.length_map, List.length_map])
      exact congrArg Face.map (List.map_fst_zip bound)
  | _ => rfl

end Value

/-- Whether what lies at a place of a bundled document is what a walk through the sources came to. -/
def Sight.Shows (sight : Sight) (found : Option Value) : Prop :=
  match sight with
  | .nothing => found = none
  | .value face => found.map Value.face = some face
  | .kept reference => found = some reference
  | .beyond => False
  | .dangling => False

namespace Bundle

variable {b : Bundle}

namespace Spot

/-- Follow references until there is none, or one that was followed before. -/
def settle (c : Spot b) : Spot b :=
  match _lead : c.lead with
  | .onward next => next.settle
  | _ => c
termination_by b.unseen c.followed
decreasing_by exact unseen_of_onward _lead

def child? (c : Spot b) (step : Step) : Option (Spot b) := (c.value.position? step).bind fun i =>
  c.parts[i]?

/-- What a walk through the sources comes to from a spot. -/
def sight (c : Spot b) (location : Location) : Sight :=
  match location with
  | [] =>
      match c.settle.lead with
      | .inward => .value c.settle.value.face
      | .kept => .kept c.settle.value
      | _ => .dangling
  | step :: rest =>
      match c.settle.lead with
      | .inward =>
          match c.settle.child? step with
          | none => .nothing
          | some child => child.sight rest
      | .kept => .beyond
      | _ => .dangling

theorem settle_of_onward {c next : Spot b} (onward : c.lead = .onward next) :
    c.settle = next.settle := by
  rw [settle, onward]

theorem settle_eq_self {c : Spot b} (still : ∀ next, c.lead ≠ .onward next) : c.settle = c := by
  rw [settle]
  split
  · next next onward => exact absurd onward (still next)
  · rfl

theorem resolve_settle (c : Spot b) : c.settle.resolve = c.resolve := by
  induction c using Spot.induction with
  | step c _ next =>
      cases lead : c.lead with
      | onward c' => rw [settle_of_onward lead, resolve_of_onward lead, next c' lead]
      | _ => rw [settle_eq_self (by simp [lead])]

theorem lead_settle (c : Spot b) (next : Spot b) : c.settle.lead ≠ .onward next := by
  induction c using Spot.induction with
  | step c _ ih =>
      cases lead : c.lead with
      | onward c' => rw [settle_of_onward lead]; exact ih c' lead
      | _ => rw [settle_eq_self (by simp [lead]), lead]; simp

theorem value_of_resolve {c : Spot b} {out : Value} (done : c.resolve = .ok out) :
    (c.settle.lead = .inward ∧
      ∃ outs, c.settle.parts.map resolve = outs.map .ok ∧ c.settle.value.withParts outs = out) ∨
    (c.settle.lead = .kept ∧ c.settle.value = out) := by
  rw [← resolve_settle] at done
  cases lead : c.settle.lead with
  | inward => exact .inl ⟨rfl, (resolve_inward_ok_iff lead).1 done⟩
  | kept =>
      rw [resolve_of_kept lead] at done
      exact .inr ⟨rfl, Except.ok.inj done⟩
  | onward next => exact absurd lead (lead_settle c next)
  | stuck failure =>
      rw [resolve_of_stuck lead] at done
      cases done

/-- Where a spot has a value, the same steps lead to the same sight in its sources and in the value. -/
theorem shows_of_resolve {c : Spot b} {out : Value} (done : c.resolve = .ok out)
    (location : Location) (above : c.sight location ≠ .beyond) :
    (c.sight location).Shows (out.at? location) := by
  induction location generalizing c out with
  | nil =>
      rcases value_of_resolve done with ⟨inward, outs, resolved, same⟩ | ⟨kept, same⟩
      · subst same
        rw [sight, inward]
        exact congrArg some (Value.face_withParts (length_of_resolved resolved))
      · subst same
        rw [sight, kept]
        exact rfl
  | cons step rest ih =>
      rcases value_of_resolve done with ⟨inward, outs, resolved, same⟩ | ⟨kept, same⟩
      · subst same
        -- The value has the shape of the spot it was made from, so a step leads to the same part of both, or nowhere.
        have outsAt (i : Nat) : c.settle.parts[i]?.map resolve = outs[i]?.map .ok := by
          rw [← List.getElem?_map, ← List.getElem?_map, resolved]
        rw [sight, inward] at above ⊢
        rw [Value.at?, Value.child_withParts (length_of_resolved resolved)]
        unfold child? at above ⊢
        cases place : c.settle.value.position? step with
        | none => exact rfl
        | some i =>
            have outAt := outsAt i
            rw [place, Option.bind_some] at above
            rw [Option.bind_some, Option.bind_some]
            cases inner : c.settle.parts[i]? with
            | none =>
                rw [inner] at outAt
                cases out : outs[i]? with
                | none => exact rfl
                | some out => rw [out] at outAt; cases outAt
            | some child =>
                rw [inner] at outAt above
                cases out : outs[i]? with
                | none => rw [out] at outAt; cases outAt
                | some out =>
                    rw [out] at outAt
                    exact ih (Option.some.inj outAt) above
      · rw [sight, kept] at above
        exact absurd rfl above

end Spot

def sightAt (b : Bundle) (location : Location) : Sight := b.start.sight location

/--
Bundling keeps the meaning of every place: what lies there in the bundled document is what the walk
through the sources comes to.
-/
theorem run_shows_sight (trees : b.Trees) {out : Value} (done : b.run = .ok out)
    (location : Location) (above : b.sightAt location ≠ .beyond) :
    (b.sightAt location).Shows (out.at? location) :=
  Spot.shows_of_resolve ((run_ok_iff trees).1 done).2 location above

/-- Two documents that refer to each other, the root of one from inside the other. -/
def mutualPair : Bundle where
  library := .ofDocuments [("/more.json", .record
    [("back", Reference.value "api.json#/a"), ("list", .list [Reference.value "#/back"])])]
  workdir := []
  rootKey := "/api.json"
  root := .record [("a", Reference.value "more.json"), ("n", .int 1)]

private def mutualPairOut : Value :=
  let more := Reference.value "more.json"
  .record [("a", .record [("back", more), ("list", .list [more])]), ("n", .int 1)]

private def inTheList : Value.Location := [.key (.text "a"), .key (.text "list"), .index 0]

theorem mutualPair_shows_sight :
    mutualPair.Trees ∧ mutualPair.run = .ok mutualPairOut ∧
    mutualPair.sightAt inTheList ≠ .beyond ∧
    mutualPairOut.at? inTheList = some (Reference.value "more.json") := by
  have trees : mutualPair.Trees := .of_documents rfl (by decide) (by decide)
  have done : mutualPair.run = .ok mutualPairOut :=
    run_of_resolveIn trees (.of_reach trees (by decide) (by decide))
      (show mutualPair.start.resolveIn 10 = _ by with_unfolding_all rfl)
  have sight : mutualPair.sightAt inTheList = .kept (Reference.value "more.json") := by
    with_unfolding_all rfl
  have above : mutualPair.sightAt inTheList ≠ .beyond := by
    rw [sight]
    exact fun other => by cases other
  have shown := run_shows_sight trees done _ above
  rw [sight] at shown
  exact ⟨trees, done, above, shown⟩

end Bundle

end QueryHooks
