import QueryHooks.Proofs.Bundle.Spot
import QueryHooks.Proofs.Bundle.Step

/-!
Bundling gives each spot the value that `resolve` says, and neither the shelf of documents nor the
collections around play a part in it. Only when a spot lies too many steps away does it break off.
-/

namespace QueryHooks.Bundle

open Value (sizeOf_part)

variable {b : Bundle}

/-- The value of a spot with the references in it replaced. -/
def Spot.resolve (c : Spot b) : Except Failure Value :=
  match _lead : c.lead with
  | .inward => Except.map c.value.withParts (c.parts.attach.mapM fun ⟨inner, _⟩ => inner.resolve)
  | .kept => .ok c.value
  | .onward next => next.resolve
  | .stuck failure => .error failure
termination_by (b.unseen c.followed, sizeOf c.value)
decreasing_by
  · next inside =>
    obtain ⟨_, sameFollowed, inside⟩ := Spot.of_mem_parts inside
    rw [sameFollowed]
    exact Prod.Lex.right _ (sizeOf_part inside)
  · exact Prod.Lex.left _ _ (Spot.unseen_of_onward _lead)

/-- The spots that bundling meets when nothing stops it, with the steps that lead there. -/
inductive Visits (b : Bundle) : Nat → Spot b → Prop
  | root : Visits b 0 b.start
  | part {steps : Nat} {c part : Spot b} (visited : Visits b steps c) (inward : c.lead = .inward)
      (inside : part ∈ c.parts) : Visits b (steps + 2) part
  | onward {steps : Nat} {c next : Spot b} (visited : Visits b steps c) (onward : c.lead = .onward next) :
      Visits b (steps + 1) next

/-- Whether a document is shallow enough to be bundled, and all that bundling meets close enough. -/
structure Fits (b : Bundle) : Prop where
  depth : b.root.depth ≤ maxDepth
  steps : ∀ steps c, b.Visits steps c → steps ≤ maxSteps

/-- Whether all documents are trees. -/
structure Trees (b : Bundle) : Prop where
  root : b.root.IsTree
  library : ∀ key document, b.library.answer key = .ok document → document.IsTree

theorem Trees.of_holds (trees : b.Trees) {key : String} {document : Value}
    (held : b.Holds key document) :
    document.IsTree := by
  unfold Holds answer at held
  split at held
  · injection held with same
    exact same ▸ trees.root
  · exact trees.library key document held

theorem Trees.of_part (trees : b.Trees) {reference : String} {target : Target} {v : Value}
    (found : b.part reference target = .ok v) : v.IsTree := by
  obtain ⟨whole, held, reached⟩ := part_ok_iff.1 found
  exact (Pointer.tree_of_follow (trees.of_holds held) reached).1

theorem Visits.tree (trees : b.Trees) {steps : Nat} {c : Spot b} (visited : b.Visits steps c) :
    c.value.IsTree := by
  induction visited with
  | root => exact trees.root
  | part _ _ inside ih => exact ih.part (Spot.of_mem_parts inside).2.2
  | onward _ onward _ =>
      obtain ⟨_, _, _, lands, _⟩ := Spot.exists_of_onward onward
      exact trees.of_part lands.2

namespace Spot

variable {c next : Spot b} {failure : Failure}

theorem resolve_of_inward (inward : c.lead = .inward) :
    c.resolve = Except.map c.value.withParts (c.parts.mapM resolve) := by
  have detached : (c.parts.attach.mapM fun x => match x with | ⟨inner, _⟩ => inner.resolve) =
      c.parts.mapM resolve := by
    rw [List.mapM_subtype fun inner _ => rfl, List.unattach_attach]
  rw [resolve, inward]
  exact congrArg (Except.map c.value.withParts) detached

theorem resolve_of_kept (kept : c.lead = .kept) : c.resolve = .ok c.value := by
  rw [resolve, kept]

theorem resolve_of_onward (onward : c.lead = .onward next) : c.resolve = next.resolve := by
  rw [resolve, onward]

theorem resolve_of_stuck (stuck : c.lead = .stuck failure) : c.resolve = .error failure := by
  rw [resolve, stuck]

end Spot

theorem mapM_ok_iff {α β : Type} (f : α → Except Failure β) (items : List α) (outs : List β) :
    items.mapM f = .ok outs ↔ items.map f = outs.map .ok := by
  induction items generalizing outs with
  | nil => cases outs <;> simp [pure, Except.pure]
  | cons item rest ih =>
      rw [List.mapM_cons, List.map_cons]
      cases first : f item with
      | error failure => cases outs <;> simp [bind, Except.bind]
      | ok out =>
          cases below : rest.mapM f with
          | error failure =>
              cases outs with
              | nil => simp [bind, Except.bind]
              | cons out' outs =>
                  have other : rest.map f ≠ outs.map .ok := fun same => by
                    rw [(ih outs).2 same] at below
                    cases below
                  simp [bind, Except.bind, other]
          | ok outs' =>
              have same := (ih outs').1 below
              cases outs with
              | nil => simp [bind, Except.bind, pure, Except.pure]
              | cons out' outs =>
                  simp only [bind, Except.bind, pure, Except.pure, List.map_cons, same]
                  simp [List.map_inj_right fun _ _ same => Except.ok.inj same]

theorem Spot.resolve_inward_ok_iff {c : Spot b} (inward : c.lead = .inward) {out : Value} :
    c.resolve = .ok out ↔ ∃ outs, c.parts.map resolve = outs.map .ok ∧
    c.value.withParts outs = out := by
  rw [resolve_of_inward inward]
  cases parts : c.parts.mapM resolve with
  | error failure =>
      simp only [Except.map, reduceCtorEq, false_iff, not_exists, not_and]
      intro outs same
      rw [(mapM_ok_iff _ _ _).2 same] at parts
      cases parts
  | ok outs =>
      simp only [Except.map, Except.ok.injEq]
      constructor
      · intro same
        exact ⟨outs, (mapM_ok_iff _ _ _).1 parts, same⟩
      · rintro ⟨outs', same, whole⟩
        rw [(mapM_ok_iff _ _ _).2 same] at parts
        injection parts with sameOuts
        rw [← sameOuts]
        exact whole

/-- The value of a spot, if no more than so many calls lie below each other. -/
def Spot.resolveIn : Nat → Spot b → Except Failure Value
  | 0, _ => .error .unexpected
  | calls + 1, c =>
      match c.lead with
      | .inward => Except.map c.value.withParts (c.parts.mapM (resolveIn calls))
      | .kept => .ok c.value
      | .onward next => resolveIn calls next
      | .stuck failure => .error failure

theorem Spot.resolve_of_resolveIn {calls : Nat} {c : Spot b} {out : Value}
    (done : c.resolveIn calls = .ok out) :
    c.resolve = .ok out := by
  induction calls generalizing c out with
  | zero => cases done
  | succ calls ih =>
      rw [resolveIn] at done
      cases lead : c.lead with
      | inward =>
          rw [lead] at done
          cases parts : c.parts.mapM (resolveIn calls) with
          | error failure => rw [parts] at done; cases done
          | ok outs =>
              rw [parts] at done
              have each := (mapM_ok_iff _ _ _).1 parts
              refine (resolve_inward_ok_iff lead).2 ⟨outs, ?_, Except.ok.inj done⟩
              rw [← each]
              refine List.map_congr_left fun inner inside => ?_
              have member : resolveIn calls inner ∈ outs.map .ok :=
                each ▸ List.mem_map_of_mem inside
              obtain ⟨innerOut, _, same⟩ := List.mem_map.1 member
              exact (ih same.symm).trans same
      | kept =>
          rw [lead] at done
          rw [resolve_of_kept lead]
          exact done
      | onward next =>
          rw [lead] at done
          rw [resolve_of_onward lead]
          exact ih done
      | stuck failure => rw [lead] at done; cases done

theorem Spot.tree_of_resolve (trees : b.Trees) {c : Spot b} {out : Value} (tree : c.value.IsTree)
    (done : c.resolve = .ok out) : out.IsTree := by
  induction c using Spot.induction generalizing out with
  | step c parts next =>
      cases lead : c.lead with
      | inward =>
          obtain ⟨outs, each, same⟩ := (resolve_inward_ok_iff lead).1 done
          subst same
          apply tree.withParts
          intro out inside
          have member : Except.ok out ∈ c.parts.map resolve := each ▸ List.mem_map_of_mem inside
          obtain ⟨inner, here, done⟩ := List.mem_map.1 member
          exact parts lead inner here (tree.part (of_mem_parts here).2.2) done
      | kept =>
          rw [resolve_of_kept lead] at done
          exact Except.ok.inj done ▸ tree
      | onward c' =>
          rw [resolve_of_onward lead] at done
          obtain ⟨_, _, _, lands, _⟩ := exists_of_onward lead
          exact next c' lead (trees.of_part lands.2) done
      | stuck failure =>
          rw [resolve_of_stuck lead] at done
          cases done

theorem Spot.length_parts (c : Spot b) : c.parts.length = c.value.parts.length := by
  rw [← c.map_value_parts, List.length_map]

theorem Spot.length_of_resolved {c : Spot b} {outs : List Value}
    (resolved : c.parts.map resolve = outs.map .ok) :
    outs.length = c.value.parts.length := by
  have same := congrArg List.length resolved
  rw [List.length_map, List.length_map, length_parts] at same
  exact same.symm

/-! How bundling proceeds at a spot, by its lead -/

namespace Spot

variable {steps : Nat} {around : List Value} {c next : Spot b} {shelf : Shelf b} {failure : Failure}

/-- What bundling gives at a spot. -/
def inlined (c : Spot b) (steps : Nat) (around : List Value) (shelf : Shelf b) :
    Except Failure Value :=
  (inline b c.document c.followed steps around c.value c.known shelf).1

theorem inlined_of_far (far : maxSteps < steps) :
    c.inlined steps around shelf = .error .unexpected :=
  congrArg Prod.fst (inline_of_far c.known shelf far)

theorem inlined_of_kept (near : steps ≤ maxSteps) (tree : c.value.IsTree) (kept : c.lead = .kept) :
    c.inlined steps around shelf = .ok c.value := by
  obtain ⟨reference, target, isReference, named, before⟩ := exists_of_kept kept
  rw [inlined, inline_of_named c.known shelf (Nat.not_lt.2 near) isReference named, if_pos before,
    tree.closedIn]

theorem inlined_of_onward (near : steps ≤ maxSteps) (onward : c.lead = .onward next)
    (around : List Value) (shelf : Shelf b) :
    ∃ after, c.inlined steps around shelf = next.inlined (steps + 1) [] after := by
  obtain ⟨reference, target, isReference, lands, fresh, sameDocument, sameFollowed⟩ :=
    exists_of_onward onward
  obtain ⟨whole, held, reached⟩ := part_ok_iff.1 lands.2
  obtain ⟨after, fetched⟩ := fetch_of_holds held reference shelf
  refine ⟨after, ?_⟩
  rw [inlined, inline_of_named c.known shelf (Nat.not_lt.2 near) isReference lands.1, if_neg fresh, fetched]
  simp only
  split
  · next problem missed => rw [reached] at missed; cases missed
  · next v found =>
      rw [reached] at found
      injection found with same
      obtain ⟨nextDocument, nextFollowed, nextValue, nextKnown⟩ := next
      dsimp only at sameDocument sameFollowed same
      subst sameDocument sameFollowed same
      rfl

theorem inlined_of_stuck (near : steps ≤ maxSteps) (stuck : c.lead = .stuck failure) :
    c.inlined steps around shelf = .error failure := by
  obtain ⟨reference, isReference, ⟨unnamed, same⟩ | ⟨target, named, fresh, missing⟩⟩ :=
    exists_of_stuck stuck
  · subst same
    exact congrArg Prod.fst (inline_of_unnamed c.known shelf (Nat.not_lt.2 near) isReference unnamed)
  · rw [inlined, inline_of_named c.known shelf (Nat.not_lt.2 near) isReference named, if_neg fresh]
    unfold part at missing
    split at missing
    · next problem absent =>
        obtain ⟨after, fetched⟩ := fetch_of_missing absent reference shelf
        rw [fetched]
        exact missing
    · next whole held =>
        obtain ⟨after, fetched⟩ := fetch_of_holds held reference shelf
        rw [fetched]
        simp only
        split
        · next problem missed => rw [missed] at missing; exact missing
        · next v found => rw [found] at missing; cases missing

theorem inlined_of_inward (near : steps ≤ maxSteps) (tree : c.value.IsTree)
    (inward : c.lead = .inward) :
    c.inlined steps around shelf = Except.map c.value.withParts
      (inlineItems b c.document c.followed (steps + 2) (c.value :: around) c.value.parts c.known.parts shelf).1 := by
  have noReference := reference_of_inward inward
  obtain ⟨document, followed, value, known⟩ := c
  cases value with
  | again kind up => cases tree
  | pair first second =>
      rw [inlined, inline_of_pair shelf (Nat.not_lt.2 near), inlineItems.eq_def]
      exact congrArg _ (tree.closedIn around)
  | _ =>
      exact congrArg Prod.fst (inline_of_parts known shelf (Nat.not_lt.2 near) noReference
        (fun _ _ => nofun) fun _ _ => nofun)

end Spot

/-! The whole way -/

private theorem inlineItems_cons {document : String} {followed : List String} {steps : Nat}
    {around rest : List Value} {v : Value} (known : b.Known document (.list (v :: rest)))
    (shelf : Shelf b) :
    (inlineItems b document followed steps around (v :: rest) known shelf).1 =
      (inline b document followed steps around v (Known.item known).1 shelf).1.bind fun out =>
        Except.map (out :: ·) (inlineItems b document followed steps around rest (Known.item known).2
          (inline b document followed steps around v (Known.item known).1 shelf).2).1 := by
  rw [inlineItems.eq_def]
  dsimp only
  rcases inline b document followed steps around v (Known.item known).1 shelf with ⟨failure | out,
    after⟩
  · rfl
  · dsimp only
    rcases inlineItems b document followed steps around rest (Known.item known).2 after with ⟨failure | outs, last⟩
    · rfl
    · rfl

/-- Going through the parts of a spot gives each what it gives alone, as long as that does not hang on the shelf. -/
private theorem inlineItems_eq_mapM {document : String} {followed : List String} {steps : Nat}
    {around : List Value} (inners : List (Spot b)) (items : List Value)
    (values : inners.map (·.value) = items)
    (here : ∀ inner ∈ inners, inner.document = document ∧ inner.followed = followed)
    (each : ∀ inner ∈ inners, ∀ shelf, inner.inlined steps around shelf = inner.resolve)
    (known : b.Known document (.list items)) (shelf : Shelf b) :
    (inlineItems b document followed steps around items known shelf).1 = inners.mapM Spot.resolve :=
    by
  induction inners generalizing items shelf with
  | nil =>
      subst values
      rw [inlineItems.eq_def]
      rfl
  | cons inner rest ih =>
      subst values
      obtain ⟨sameDocument, sameFollowed⟩ := here inner List.mem_cons_self
      subst sameDocument sameFollowed
      have known : b.Known inner.document (.list (inner.value :: rest.map (·.value))) := known
      have first :
        (inline b inner.document inner.followed steps around inner.value (Known.item known).1 shelf).1 =
          inner.resolve := each inner List.mem_cons_self shelf
      have below := ih (rest.map (·.value)) rfl
        (fun i inside => here i (List.mem_cons_of_mem _ inside))
        (fun i inside => each i (List.mem_cons_of_mem _ inside)) (Known.item known).2
      refine (inlineItems_cons known shelf).trans ?_
      rw [first, List.mapM_cons, below]
      cases inner.resolve with
      | error failure => rfl
      | ok out => cases rest.mapM Spot.resolve <;> rfl

theorem inlined_eq_resolve (trees : ∀ steps c, b.Visits steps c → c.value.IsTree) (fits : b.Fits) (c : Spot b)
    {steps : Nat} (visited : b.Visits steps c) (around : List Value) (shelf : Shelf b) :
    c.inlined steps around shelf = c.resolve := by
  induction c using Spot.induction generalizing steps around shelf with
  | step c parts next =>
      have near := fits.steps steps c visited
      have tree := trees steps c visited
      cases lead : c.lead with
      | inward =>
          rw [Spot.inlined_of_inward near tree lead, Spot.resolve_of_inward lead]
          congr 1
          refine inlineItems_eq_mapM c.parts c.value.parts c.map_value_parts ?_ ?_ _ shelf
          · intro inner inside
            exact ⟨(Spot.of_mem_parts inside).1, (Spot.of_mem_parts inside).2.1⟩
          · intro inner inside after
            exact parts lead inner inside (visited.part lead inside) _ after
      | kept => rw [Spot.inlined_of_kept near tree lead, Spot.resolve_of_kept lead]
      | onward c' =>
          obtain ⟨after, same⟩ := Spot.inlined_of_onward near lead around shelf
          rw [same, Spot.resolve_of_onward lead]
          exact next c' lead (visited.onward lead) [] after
      | stuck failure => rw [Spot.inlined_of_stuck near lead, Spot.resolve_of_stuck lead]

private theorem inlined_of_inlineItems {document : String} {followed : List String} {steps : Nat}
    {around : List Value} {items outs : List Value} {known : b.Known document (.list items)}
    {shelf : Shelf b}
    (done : (inlineItems b document followed steps around items known shelf).1 = .ok outs)
    {inner : Spot b} (sameDocument : inner.document = document)
    (sameFollowed : inner.followed = followed) (inside : inner.value ∈ items) :
    ∃ shelf out, inner.inlined steps around shelf = .ok out := by
  subst sameDocument sameFollowed
  induction items generalizing outs shelf with
  | nil => cases inside
  | cons v rest ih =>
      rw [inlineItems.eq_def] at done
      simp only at done
      split at done
      · cases done
      · next out after here =>
          rcases List.mem_cons.1 inside with same | later
          · subst same
            exact ⟨shelf, out, congrArg Prod.fst here⟩
          · split at done
            · cases done
            · next outs' last below => exact ih later (congrArg Prod.fst below)

private theorem near_of_inlined {c : Spot b} {steps : Nat} {around : List Value} {shelf : Shelf b}
    {out : Value} (done : c.inlined steps around shelf = .ok out) : steps ≤ maxSteps := by
  refine Nat.not_lt.1 fun far => ?_
  rw [Spot.inlined_of_far far] at done
  cases done

/-- When bundling succeeds, it came to an end at all spots it met. -/
private theorem inlined_of_visits (trees : b.Trees) {out : Value} (done : b.run = .ok out)
    {steps : Nat} {c : Spot b} (visited : b.Visits steps c) :
    ∃ around shelf out, c.inlined steps around shelf = .ok out := by
  induction visited with
  | root =>
      unfold run at done
      split at done
      · cases done
      · exact ⟨_, _, out, done⟩
  | part visited inward inside ih =>
      obtain ⟨around, shelf, out, done⟩ := ih
      rw [Spot.inlined_of_inward (near_of_inlined done) (visited.tree trees) inward] at done
      obtain ⟨sameDocument, sameFollowed, member⟩ := Spot.of_mem_parts inside
      cases items : (inlineItems b _ _ _ _ _ _ shelf).1 with
      | error failure => rw [items] at done; cases done
      | ok outs => exact ⟨_, inlined_of_inlineItems items sameDocument sameFollowed member⟩
  | onward visited onward ih =>
      obtain ⟨around, shelf, out, done⟩ := ih
      obtain ⟨after, same⟩ := Spot.inlined_of_onward (near_of_inlined done) onward around shelf
      exact ⟨[], after, out, same.symm.trans done⟩

private theorem error_of_inlineItems {document : String} {followed : List String} {steps : Nat}
    {around : List Value} (inners : List (Spot b)) (items : List Value)
    (values : inners.map (·.value) = items)
    (here : ∀ inner ∈ inners, inner.document = document ∧ inner.followed = followed)
    (known : b.Known document (.list items)) (shelf : Shelf b) {failure : Failure}
    (failed : (inlineItems b document followed steps around items known shelf).1 = .error failure) :
    ∃ inner ∈ inners, ∃ shelf, inner.inlined steps around shelf = .error failure := by
  induction inners generalizing items shelf with
  | nil =>
      subst values
      rw [inlineItems.eq_def] at failed
      cases failed
  | cons inner rest ih =>
      subst values
      obtain ⟨sameDocument, sameFollowed⟩ := here inner List.mem_cons_self
      subst sameDocument sameFollowed
      have known : b.Known inner.document (.list (inner.value :: rest.map (·.value))) := known
      have failed := (inlineItems_cons known shelf).symm.trans failed
      -- The items are resolved in order, so the failure is of the first that has one; the shelf grew before it.
      cases first :
        (inline b inner.document inner.followed steps around inner.value (Known.item known).1 shelf).1 with
      | error cause =>
          rw [first] at failed
          injection failed with same
          exact ⟨inner, List.mem_cons_self, shelf, same ▸ first⟩
      | ok out =>
          rw [first] at failed
          cases below :
            (inlineItems b inner.document inner.followed steps around (rest.map (·.value))
              (Known.item known).2 (inline b inner.document inner.followed steps around inner.value
                (Known.item known).1 shelf).2).1 with
          | ok outs =>
              simp only [Except.bind, below] at failed
              cases failed
          | error cause =>
              simp only [Except.bind, below] at failed
              injection failed with same
              obtain ⟨inner', inside, found⟩ := ih (rest.map (·.value)) rfl
                (fun i inside => here i (List.mem_cons_of_mem _ inside)) _ _ (same ▸ below)
              exact ⟨inner', List.mem_cons_of_mem _ inside, found⟩

/-- Bundling fails at a spot because it is too far away, or because it got stuck at one that it met. -/
private theorem failure_of_inlined (trees : ∀ steps c, b.Visits steps c → c.value.IsTree) {c : Spot b} {steps : Nat}
    (visited : b.Visits steps c) {around : List Value} {shelf : Shelf b} {failure : Failure}
    (failed : c.inlined steps around shelf = .error failure) :
    (failure = .unexpected ∧ ¬ b.Fits) ∨ ∃ steps c, b.Visits steps c ∧ c.lead = .stuck failure := by
  induction c using Spot.induction generalizing steps around shelf with
  | step c parts next =>
      -- Too far away the failure has no other cause; nearer, the lead of the spot tells where it comes from.
      by_cases far : maxSteps < steps
      · rw [Spot.inlined_of_far far] at failed
        injection failed with same
        exact .inl ⟨same.symm, fun fits => Nat.not_lt.2 (fits.steps steps c visited) far⟩
      have near := Nat.not_lt.1 far
      have tree := trees steps c visited
      cases lead : c.lead with
      | inward =>
          rw [Spot.inlined_of_inward near tree lead] at failed
          cases inners :
            (inlineItems b c.document c.followed (steps + 2) (c.value :: around) c.value.parts
              c.known.parts shelf).1 with
          | ok outs => rw [inners] at failed; cases failed
          | error cause =>
              rw [inners] at failed
              injection failed with same
              subst same
              obtain ⟨inner, inside, after, failed⟩ :=
                error_of_inlineItems c.parts c.value.parts c.map_value_parts
                (fun inner inside => ⟨(Spot.of_mem_parts inside).1, (Spot.of_mem_parts inside).2.1⟩) _ shelf inners
              exact parts lead inner inside (visited.part lead inside) failed
      | kept => rw [Spot.inlined_of_kept near tree lead] at failed; cases failed
      | onward c' =>
          obtain ⟨after, same⟩ := Spot.inlined_of_onward near lead around shelf
          exact next c' lead (visited.onward lead) (same.symm.trans failed)
      | stuck cause =>
          rw [Spot.inlined_of_stuck near lead] at failed
          injection failed with same
          exact .inr ⟨steps, c, visited, same ▸ lead⟩

theorem failure_of_visits (trees : ∀ steps c, b.Visits steps c → c.value.IsTree) {failure : Failure}
    (failed : b.run = .error failure) :
    (failure = .unexpected ∧ ¬ b.Fits) ∨ ∃ steps c, b.Visits steps c ∧ c.lead = .stuck failure := by
  unfold run at failed
  split at failed
  · next far =>
      injection failed with same
      exact .inl ⟨same.symm, fun fits => Nat.not_lt.2 fits.depth far⟩
  · exact failure_of_inlined trees .root failed

theorem failure_of_run (trees : b.Trees) {failure : Failure} (failed : b.run = .error failure) :
    (failure = .unexpected ∧ ¬ b.Fits) ∨ ∃ steps c, b.Visits steps c ∧ c.lead = .stuck failure :=
  failure_of_visits (fun _ _ visited => visited.tree trees) failed

theorem not_stuck_of_run (trees : b.Trees) {out : Value} (done : b.run = .ok out) {steps : Nat}
    {c : Spot b} (visited : b.Visits steps c) (failure : Failure) : c.lead ≠ .stuck failure := by
  intro stuck
  obtain ⟨around, shelf, out, done⟩ := inlined_of_visits trees done visited
  rw [Spot.inlined_of_stuck (near_of_inlined done) stuck] at done
  cases done

theorem run_eq_resolve_of_visits (trees : ∀ steps c, b.Visits steps c → c.value.IsTree) (fits : b.Fits) :
    b.run = b.start.resolve := by
  rw [run, if_neg (Nat.not_lt.2 fits.depth)]
  exact inlined_eq_resolve trees fits b.start .root [] (Shelf.start b)

theorem run_eq_resolve (trees : b.Trees) (fits : b.Fits) : b.run = b.start.resolve :=
  run_eq_resolve_of_visits (fun _ _ visited => visited.tree trees) fits

theorem Fits.of_run (trees : b.Trees) {out : Value} (done : b.run = .ok out) : b.Fits where
  depth := by
    refine Nat.not_lt.1 fun far => ?_
    rw [run, if_pos far] at done
    cases done
  steps := fun steps c visited => by
    obtain ⟨around, shelf, out, done⟩ := inlined_of_visits trees done visited
    exact near_of_inlined done

/-- Bundling succeeds exactly when all it meets is near enough and the root has a value without references. -/
theorem run_ok_iff (trees : b.Trees) {out : Value} : b.run = .ok out ↔ b.Fits ∧
    b.start.resolve = .ok out := by
  constructor
  · intro done
    have fits := Fits.of_run trees done
    exact ⟨fits, (run_eq_resolve trees fits).symm.trans done⟩
  · rintro ⟨fits, done⟩
    exact (run_eq_resolve trees fits).trans done

theorem tree_of_run (trees : b.Trees) {out : Value} (done : b.run = .ok out) : out.IsTree :=
  Spot.tree_of_resolve trees trees.root ((run_ok_iff trees).1 done).2

end QueryHooks.Bundle

/-!
Bundling two documents side by side. A relation between the spots of one and the spots of the other
gives related spots the same value, when they do the same wherever they are related; the second may
also follow references of its own.
-/

namespace QueryHooks.Bundle

variable {b b' : Bundle}

/--
What two related spots do: the same, in related ways, or the second one follows a reference where
the first waits.
-/
inductive Spot.Matches (related : Spot b → Spot b' → Prop) (c : Spot b) (c' : Spot b') : Prop
  | inward (lead : c.lead = .inward) (lead' : c'.lead = .inward) (length : c'.parts.length = c.parts.length)
      (whole : ∀ outs, outs.length = c.value.parts.length →
        c'.value.withParts outs = c.value.withParts outs)
      (each : ∀ (i : Nat) part part', c.parts[i]? = some part → c'.parts[i]? = some part' →
        related part part')
  | kept (lead : c.lead = .kept) (lead' : c'.lead = .kept) (same : c'.value = c.value)
  | stuck {failure failure' : Failure} (lead : c.lead = .stuck failure) (lead' : c'.lead = .stuck failure')
  | onward {next : Spot b} {next' : Spot b'} (lead : c.lead = .onward next) (lead' : c'.lead = .onward next')
      (both : related next next')
  | detour {next' : Spot b'} (lead' : c'.lead = .onward next') (both : related c next')

/-- Whether two spots have the same value, if any. -/
def Spot.Agrees (c : Spot b) (c' : Spot b') : Prop := ∀ out, c.resolve = .ok out ↔
  c'.resolve = .ok out

theorem map_resolve_iff {cs : List (Spot b)} {cs' : List (Spot b')}
    (length : cs'.length = cs.length)
    (each : ∀ (i : Nat) (c : Spot b) (c' : Spot b'), cs[i]? = some c → cs'[i]? = some c' → c.Agrees c')
    (outs : List Value) :
    cs.map Spot.resolve = outs.map .ok ↔ cs'.map Spot.resolve = outs.map .ok := by
  induction cs generalizing cs' outs with
  | nil => rw [List.length_eq_zero_iff.1 length]; rfl
  | cons c rest ih =>
      cases cs' with
      | nil => cases length
      | cons c' rest' =>
          cases outs with
          | nil => simp
          | cons out outs =>
              have first : c.Agrees c' := each 0 c c' rfl rfl
              have later := ih (Nat.succ.inj length) (fun i => each (i + 1)) outs
              simp only [List.map_cons, List.cons.injEq]
              exact and_congr (first out) later

theorem Spot.agrees_of_matches {related : Spot b → Spot b' → Prop}
    (simulates : ∀ c c', related c c' → c.Matches related c') {c : Spot b} {c' : Spot b'}
    (both : related c c') :
    c.Agrees c' := by
  -- By induction on the second spot: it makes the detours, which the first one does not have.
  induction c' using Spot.induction generalizing c with
  | step c' parts next =>
      intro out
      cases simulates c c' both with
      | inward lead lead' length whole each =>
          have same := map_resolve_iff length fun i part part' here here' =>
            parts lead' part' (List.mem_of_getElem? here') (each i part part' here here')
          rw [resolve_inward_ok_iff lead, resolve_inward_ok_iff lead']
          constructor
          · rintro ⟨outs, resolved, isOut⟩
            exact ⟨outs, (same outs).1 resolved,
              (whole outs (length_of_resolved resolved)).trans isOut⟩
          · rintro ⟨outs, resolved, isOut⟩
            have resolved := (same outs).2 resolved
            exact ⟨outs, resolved, (whole outs (length_of_resolved resolved)).symm.trans isOut⟩
      | kept lead lead' same => rw [resolve_of_kept lead, resolve_of_kept lead', same]
      | stuck lead lead' =>
          rw [resolve_of_stuck lead, resolve_of_stuck lead']
          constructor
          · intro impossible
            cases impossible
          · intro impossible
            cases impossible
      | onward lead lead' both =>
          rw [resolve_of_onward lead, resolve_of_onward lead']
          exact next _ lead' both out
      | detour lead' both =>
          rw [resolve_of_onward lead']
          exact next _ lead' both out

end QueryHooks.Bundle
