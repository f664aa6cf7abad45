import QueryHooks.Api.Extract
import QueryHooks.Proofs.Bundle.Kept
import QueryHooks.Proofs.Bundle.Reachability

/-!
Documents without circles. Where no reference that can be reached leads back to itself, nothing is kept,
so the bundled document has no references, and bundling it again leaves it as it is.
-/

namespace QueryHooks.Bundle

open Value (Location)
open QueryHooks.Api (Model)

variable {b : Bundle}

/-- Whether no reference that can be reached has a reference to its own target behind it. -/
def Acyclic (b : Bundle) : Prop :=
  ∀ document reference target v, b.Reachable document reference → b.Lands document reference target v →
    ∀ document' reference' target', b.ReachableFrom target.document v document' reference' →
      Reference.target? b.workdir document' reference' = some target' → target'.key ≠ target.key

/-- Whether a rank of targets falls from each reference to those in what it leads to. -/
def falls (b : Bundle) (rank : String → Nat) : Bool :=
  b.documents.all fun (key, document) =>
    document.references.all fun reference =>
      match Reference.target? b.workdir key reference with
      | none => true
      | some target =>
          match b.part reference target with
          | .error _ => true
          | .ok v =>
              v.references.all fun inner =>
                match Reference.target? b.workdir target.document inner with
                | none => true
                | some next => rank next.key < rank target.key

theorem rank_lt_of_falls {rank : String → Nat} (falls : b.falls rank = true) {key : String} {document : Value}
    (held : b.Holds key document) {reference inner : String} {target next : Target} {v : Value}
    (inside : reference ∈ document.references) (lands : b.Lands key reference target v)
    (below : inner ∈ v.references) (named : Reference.target? b.workdir target.document inner = some next) :
    rank next.key < rank target.key := by
  have here := List.all_eq_true.1 (List.all_eq_true.1 falls _ (mem_documents held)) reference inside
  simp only [lands.1, lands.2] at here
  have there := List.all_eq_true.1 here inner below
  rw [named] at there
  exact of_decide_eq_true there

/-- A rank that falls along references allows no circle. -/
theorem Acyclic.of_falls {rank : String → Nat} (falls : b.falls rank = true) : b.Acyclic := by
  intro document reference target v reachable lands document' reference' target' behind named same
  obtain ⟨whole, held, inside⟩ := reachable.exists_document ⟨b.root, b.holds_root, fun _ => id⟩
  obtain ⟨whole', held', reached⟩ := part_ok_iff.1 lands.2
  have written : ∃ whole, b.Holds target.document whole ∧ v.references ⊆ whole.references :=
    ⟨whole', held', Pointer.references_follow reached⟩
  have lower : ∀ next, Reference.target? b.workdir document' reference' = some next →
      rank next.key < rank target.key := by
    clear named same
    induction behind with
    | start occurs =>
        exact fun next named => rank_lt_of_falls falls held inside lands occurs.mem_references named
    | behind between lands' occurs ih =>
        obtain ⟨_, heldBetween, insideBetween⟩ := between.exists_document written
        exact fun next named => Nat.lt_trans
          (rank_lt_of_falls falls heldBetween insideBetween lands' occurs.mem_references named) (ih _ lands'.1)
  have impossible := lower target' named
  rw [same] at impossible
  exact Nat.lt_irrefl _ impossible

namespace Visits

variable {steps : Nat} {c : Spot b}

/-- What lies behind a target that is being followed. -/
theorem exists_behind (visited : b.Visits steps c) {key : String} (before : key ∈ c.followed) :
    ∃ document reference target v, b.Reachable document reference ∧ b.Lands document reference target v ∧
      target.key = key ∧ c.LiesBehind target.document v := by
  induction visited with
  | root => cases before
  | part _ inward inside ih =>
      obtain ⟨document, reference, target, v, reachable, lands, same, behind⟩ :=
        ih ((Spot.of_mem_parts inside).2.1 ▸ before)
      exact ⟨document, reference, target, v, reachable, lands, same, behind.part inward inside⟩
  | @onward steps c next visited onward ih =>
      obtain ⟨reference, target, isReference, lands, _, sameDocument, sameFollowed⟩ :=
        Spot.exists_of_onward onward
      rw [sameFollowed] at before
      rcases List.mem_cons.1 before with same | earlier
      · have reachable := visited.reachable_of_occurs (Spot.occurs_of_reference isReference)
        refine ⟨c.document, reference, target, next.value, reachable, lands, same.symm, fun inner occurs => ?_⟩
        rw [sameDocument]
        exact .start occurs
      · obtain ⟨document, reference', target', v, reachable, lands', same, behind⟩ := ih earlier
        exact ⟨document, reference', target', v, reachable, lands', same, behind.onward onward⟩

theorem not_kept (acyclic : b.Acyclic) (visited : b.Visits steps c) : c.lead ≠ .kept := by
  intro kept
  obtain ⟨reference, target, isReference, named, before⟩ := Spot.exists_of_kept kept
  obtain ⟨document, reference', target', v, reachable, lands, same, behind⟩ := visited.exists_behind before
  exact acyclic document reference' target' v reachable lands c.document reference target
    (behind reference (Spot.occurs_of_reference isReference)) named same.symm

end Visits

namespace Spot

variable {c : Spot b} {out : Value} {steps : Nat}

/-- What all parts have, each in its own value, the value of the whole has in its parts. -/
theorem forall_out_of_resolved {c : Spot b} {outs : List Value} (resolved : c.parts.map resolve = outs.map .ok)
    {motive : Value → Prop} (each : ∀ part ∈ c.parts, ∀ out, part.resolve = .ok out → motive out) :
    ∀ out ∈ outs, motive out := by
  intro out inside
  have member : Except.ok out ∈ c.parts.map resolve := resolved ▸ List.mem_map_of_mem inside
  obtain ⟨part, here, done⟩ := List.mem_map.1 member
  exact each part here out done

theorem free_of_resolve (trees : b.Trees) (texts : b.RefsAreTexts) (acyclic : b.Acyclic)
    (visited : b.Visits steps c) (done : c.resolve = .ok out) : ∀ w ∈ out.all, w.get? "$ref" = none := by
  induction c using Spot.induction generalizing steps out with
  | step c parts next =>
      cases lead : c.lead with
      | inward =>
          obtain ⟨outs, resolved, rfl⟩ := (resolve_inward_ok_iff lead).1 done
          have sameLength := length_of_resolved resolved
          intro w here
          rcases Value.mem_all_iff.1 here with rfl | ⟨part, inside, below⟩
          · have isText := visited.refIsText trees texts _ (Value.mem_all_self _)
            exact Value.get_withParts (Value.get_eq_none isText (reference_of_inward lead)) sameLength
          · rw [Value.parts_withParts sameLength] at inside
            exact forall_out_of_resolved resolved
              (fun inner member out done => parts lead inner member (visited.part lead member) done) part inside w below
      | kept => exact absurd lead (visited.not_kept acyclic)
      | onward c' =>
          rw [resolve_of_onward lead] at done
          exact next c' lead (visited.onward lead) done
      | stuck failure =>
          rw [resolve_of_stuck lead] at done
          cases done

/--
A value without pairs gets no deeper than a document may be: where nothing was followed on the way it is as deep
as the root, and every reference that was followed has used up a step.
-/
theorem depth_of_resolve (fits : b.Fits) (acyclic : b.Acyclic) (visited : b.Visits steps c)
    (done : c.resolve = .ok out) (noPair : ∀ w ∈ out.all, w.isPair = false) {level : Nat}
    (deep : 2 * level ≤ steps)
    (paid : 2 * level < steps ∨ level + c.value.depth ≤ maxDepth) : level + out.depth ≤ maxDepth := by
  induction c using Spot.induction generalizing steps out level with
  | step c parts next =>
      have near := fits.steps steps c visited
      have limits : maxSteps = 2 * maxDepth := rfl
      cases lead : c.lead with
      | inward =>
          obtain ⟨outs, resolved, rfl⟩ := (resolve_inward_ok_iff lead).1 done
          -- Going into a part takes two steps, so as long as there is room for steps there is room for levels.
          rcases Nat.eq_zero_or_pos c.value.depth with flat | deeper
          · rw [Value.withParts_of_depth flat, flat]
            omega
          have same := Value.parts_withParts (length_of_resolved resolved)
          have room : level + 1 ≤ maxDepth := by omega
          have shallow : ∀ out ∈ (c.value.withParts outs).parts, out.depth ≤ maxDepth - (level + 1) := by
            rw [same]
            intro out inside
            have noPairBelow : ∀ w ∈ out.all, w.isPair = false :=
              fun w here => noPair w (Value.all_part (same.symm ▸ inside) here)
            have below := forall_out_of_resolved resolved
              (motive := fun out => (∀ w ∈ out.all, w.isPair = false) → level + 1 + out.depth ≤ maxDepth)
              (fun part member out done noPair => by
                have shallower := Value.depth_part (of_mem_parts member).2.2
                exact parts lead part member (visited.part lead member) done noPair (by omega) (by omega))
              out inside noPairBelow
            omega
          have whole := Value.depth_le_succ (noPair _ (Value.mem_all_self _)) shallow
          omega
      | kept => exact absurd lead (visited.not_kept acyclic)
      | onward c' =>
          rw [resolve_of_onward lead] at done
          exact next c' lead (visited.onward lead) done noPair (by omega) (.inl (by omega))
      | stuck failure =>
          rw [resolve_of_stuck lead] at done
          cases done

/-- A value without references is its own. -/
theorem resolve_of_free (free : ∀ w ∈ c.value.all, w.reference? = none) : c.resolve = .ok c.value := by
  induction c using Spot.induction with
  | step c parts _ =>
      have inward : c.lead = .inward :=
        lead_of_none (free c.value (Value.mem_all_self _))
      refine (resolve_inward_ok_iff inward).2 ⟨c.value.parts, ?_, Value.withParts_parts c.value⟩
      rw [← c.map_value_parts, List.map_map]
      refine List.map_congr_left fun part inside => ?_
      exact parts inward part inside fun w here => free w (Value.all_part (of_mem_parts inside).2.2 here)

end Spot

/-- In a tree without references, what is met is a tree without references, and no further away than it is deep. -/
theorem Visits.free {steps : Nat} {c : Spot b} (tree : b.root.IsTree) (free : ∀ w ∈ b.root.all, w.reference? = none)
    (visited : b.Visits steps c) :
    (∀ w ∈ c.value.all, w.reference? = none) ∧ c.value.IsTree ∧ steps + 2 * c.value.depth ≤ 2 * b.root.depth := by
  induction visited with
  | root =>
      refine ⟨free, tree, ?_⟩
      have value : b.start.value = b.root := rfl
      rw [value]
      omega
  | part _ _ inside ih =>
      obtain ⟨_, _, member⟩ := Spot.of_mem_parts inside
      have shallower := Value.depth_part member
      exact ⟨fun w here => ih.1 w (Value.all_part member here), ih.2.1.part member, by omega⟩
  | @onward steps c next _ onward ih =>
      obtain ⟨_, _, isReference, _⟩ := Spot.exists_of_onward onward
      have noReference : c.reference? = none := ih.1 c.value (Value.mem_all_self _)
      rw [noReference] at isReference
      cases isReference

/-- Bundling a tree without references leaves it as it is, if it is shallow enough, whatever the library is. -/
theorem run_of_unreferenced (tree : b.root.IsTree) (free : ∀ w ∈ b.root.all, w.reference? = none)
    (shallow : b.root.depth ≤ maxDepth) : b.run = .ok b.root := by
  have fits : b.Fits := by
    refine ⟨shallow, fun steps c visited => ?_⟩
    have bound := (visited.free tree free).2.2
    have limits : maxSteps = 2 * maxDepth := rfl
    omega
  have same := run_eq_resolve_of_visits (fun _ _ visited => (visited.free tree free).2.1) fits
  exact same.trans (Spot.resolve_of_free free)

theorem run_of_free (trees : b.Trees) (free : ∀ w ∈ b.root.all, w.get? "$ref" = none)
    (shallow : b.root.depth ≤ maxDepth) : b.run = .ok b.root :=
  run_of_unreferenced trees.root (fun w inside => Value.reference_eq_none (free w inside)) shallow

/--
Bundling leaves references only where the way has come back to them: each that is left is, or lies in, a mapping
that is kept as it stands because its target is being followed; and no target is followed twice on one way. A
document without circles so gets free of references, and bundling it again, wherever it is taken to be from,
changes nothing, nor does the model that is read from it.
-/
theorem run_references (trees : b.Trees) (texts : b.RefsAreTexts) {out : Value} (done : b.run = .ok out) :
    (∀ location w, out.at? location = some w → w.get? "$ref" ≠ none →
      ∃ before rest s, location = before ++ rest ∧ b.start.walk? before = some s ∧
        s.value.at? rest = some w ∧
        ∃ reference target, s.reference? = some reference ∧
          Reference.target? b.workdir s.document reference = some target ∧ target.key ∈ s.followed) ∧
    (∀ steps c, b.Visits steps c → c.followed.Nodup) ∧
    (b.Acyclic →
      (∀ w ∈ out.all, w.get? "$ref" = none) ∧
      ((∀ w ∈ out.all, w.isPair = false) → out.depth ≤ maxDepth) ∧
      (out.depth ≤ maxDepth → ∀ source key, Reference.documentKey? b.workdir source = some key →
        bundleIn b.library b.workdir out source = .ok out ∧
        ∀ base, Reference.documentKey? b.workdir base = some b.rootKey →
          Model.extractIn b.library b.workdir out source = Model.extractIn b.library b.workdir b.root base)) := by
  -- The run resolves its first spot, and so all three parts are about what lies behind that spot.
  obtain ⟨fits, resolved⟩ := (run_ok_iff trees).1 done
  refine ⟨?_, fun _ _ visited => visited.followed_nodup, fun acyclic => ?_⟩
  · intro location w found named
    obtain ⟨before, rest, s, way, came, kept, lies⟩ :=
      Spot.exists_kept trees texts .root resolved found named
    exact ⟨before, rest, s, way, came, lies, Spot.exists_of_kept kept⟩
  · have free := Spot.free_of_resolve trees texts acyclic .root resolved
    refine ⟨free, fun noPair => ?_, fun shallow source key isKey => ?_⟩
    · have start : 0 + b.start.value.depth ≤ maxDepth := Nat.le_trans (Nat.le_of_eq (Nat.zero_add _)) fits.depth
      have bound := Spot.depth_of_resolve fits acyclic .root resolved noPair (Nat.le_refl (2 * 0)) (.inr start)
      rwa [Nat.zero_add] at bound
    · have again : bundleIn b.library b.workdir out source = .ok out := by
        have trees' : (Bundle.mk b.library b.workdir key out).Trees := ⟨tree_of_run trees done, trees.library⟩
        rw [bundleIn, isKey]
        exact run_of_free trees' free shallow
      refine ⟨again, fun base isRoot => ?_⟩
      have first : bundleIn b.library b.workdir b.root base = .ok out := by
        rw [bundleIn, isRoot]
        exact done
      rw [Model.extractIn, Model.extractIn, again, first]

/-- A document whose references lead to one another and into another document, in no circle. -/
def ladder : Bundle where
  library := .ofDocuments [("/more.json", .record [("x", .record [("n", .int 1)])])]
  workdir := []
  rootKey := "/api.json"
  root := .record [("a", Reference.value "more.json#/x"), ("b", .list [Reference.value "#/a", .null])]

private def ladderOut : Value :=
  let n := Value.record [("n", .int 1)]
  .record [("a", n), ("b", .list [n, .null])]

theorem ladder_references :
    ladder.Trees ∧ ladder.RefsAreTexts ∧ ladder.run = .ok ladderOut ∧ ladder.Acyclic ∧
    bundleIn ladder.library [] ladderOut (some "sub/other.json") = .ok ladderOut := by
  have trees : ladder.Trees := .of_documents rfl (by decide) (by decide)
  have texts : ladder.RefsAreTexts := .of_documents rfl (by decide) (by decide)
  have done : ladder.run = .ok ladderOut :=
    run_of_resolveIn trees (.of_reach trees (by decide) (by decide))
      (show ladder.start.resolveIn 10 = _ by with_unfolding_all rfl)
  have acyclic : ladder.Acyclic := by
    have falls : ladder.falls (fun key => if key = "/api.json#/a" then 1 else 0) = true := by
      with_unfolding_all rfl
    exact .of_falls falls
  have isKey : Reference.documentKey? [] (some "sub/other.json") = some "/sub/other.json" := by
    with_unfolding_all rfl
  obtain ⟨-, shallow, again⟩ := (run_references trees texts done).2.2 acyclic
  exact ⟨trees, texts, done, acyclic, (again (by decide) _ _ isKey).1⟩

/-- A document that goes round in a circle, with a reference beside the one that is kept. -/
def besideCircle : Bundle where
  library := .ofDocuments []
  workdir := []
  rootKey := "/api.json"
  root := .record
    [("a", .record [("$ref", .text "#/a"), ("x", Reference.value "#/b")]), ("b", .int 1)]

private theorem of_walk {location : Location} {s : Spot b} {document : String} {followed : List String}
    (isSpot : (b.start.walk? location).map (fun s => (s.document, s.followed)) = some (document, followed))
    (came : b.start.walk? location = some s) : s.document = document ∧ s.followed = followed := by
  rw [came] at isSpot
  exact Prod.mk.inj (Option.some.inj isSpot)

/-- A document without circles that has a reference in a pair. -/
def pairedReference : Bundle where
  library := .ofDocuments []
  workdir := []
  rootKey := "/api.json"
  root := .record [("a", .list [.pair (.text "x") (Reference.value "#/b")]), ("b", .int 1)]

/--
What stands beside a reference that is kept is left as it is, without its targets being followed, and so is
what stands in a pair; and a base that can be no key has no bundled document.
-/
theorem exists_left_unfollowed :
    (¬ ∀ (b : Bundle) (out : Value), b.Trees → b.RefsAreTexts → b.run = .ok out →
      ∀ location w reference, out.at? location = some w → w.reference? = some reference →
        ∃ before rest s target, location = before ++ rest ∧ b.start.walk? before = some s ∧
          Reference.target? b.workdir s.document reference = some target ∧ target.key ∈ s.followed) ∧
    (pairedReference.Acyclic ∧ pairedReference.run = .ok pairedReference.root) ∧
    bundleIn (.ofDocuments []) [] (.record []) (some "\x00") = .error .unexpected := by
  refine ⟨fun always => ?_, ⟨?_, ?_⟩, by with_unfolding_all rfl⟩
  rotate_left
  · have falls : pairedReference.falls (fun _ => 0) = true := by with_unfolding_all rfl
    exact .of_falls falls
  · exact run_of_free (.of_documents rfl (by decide) (by decide)) (by decide) (by decide)
  have trees : besideCircle.Trees := .of_documents rfl (by decide) (by decide)
  have texts : besideCircle.RefsAreTexts := .of_documents rfl (by decide) (by decide)
  have done : besideCircle.run = .ok besideCircle.root :=
    run_of_resolveIn trees (.of_reach trees (by decide) (by decide))
      (show besideCircle.start.resolveIn 10 = _ by with_unfolding_all rfl)
  obtain ⟨before, rest, s, target, way, came, named, seen⟩ :=
    always besideCircle _ trees texts done [.key (.text "a"), .key (.text "x")] _ "#/b" rfl rfl
  have isTarget : Reference.target? [] "/api.json" "#/b" = some ⟨"/api.json", "/b"⟩ := by with_unfolding_all rfl
  -- On the way to the place one target is followed, and the walk goes no further than to the kept mapping.
  rcases before with - | ⟨first, - | ⟨second, more⟩⟩
  · obtain ⟨-, nothing⟩ := of_walk (show _ = some ("/api.json", []) by with_unfolding_all rfl) came
    rw [nothing] at seen
    cases seen
  · cases way
    obtain ⟨sameDocument, onlyOwn⟩ :=
      of_walk (show _ = some ("/api.json", ["/api.json#/a"]) by with_unfolding_all rfl) came
    rw [sameDocument] at named
    cases Option.some.inj (isTarget.symm.trans named)
    rw [onlyOwn] at seen
    exact absurd seen (by decide)
  · obtain ⟨rfl, further⟩ := List.cons.inj way
    have ended : besideCircle.start.walk? (.key (.text "a") :: second :: more) = none := by with_unfolding_all rfl
    rw [ended] at came
    cases came

end QueryHooks.Bundle
