import QueryHooks.Proofs.Bundle.Termination
import QueryHooks.Proofs.Failure
import QueryHooks.Proofs.Reference.Mark

/-!
Which references matter to bundling: those that can be reached from the root, through the targets of
references. All of them are met, although bundling follows no reference twice on one way, for what
lies behind the second was met behind the first.
-/

namespace QueryHooks

/-- Whether a reference occurs in a value, other than beside another reference. -/
inductive Occurs (reference : String) : Value → Prop
  | here {entries : List (Value × Value)} (isReference : Reference.of? entries = some reference) :
      Occurs reference (.map entries)
  | item {items : List Value} {v : Value} (inside : v ∈ items) (below : Occurs reference v) :
      Occurs reference (.list items)
  | entry {entries : List (Value × Value)} {k v : Value} (noReference : Reference.of? entries = none)
      (inside : (k, v) ∈ entries) (below : Occurs reference v) : Occurs reference (.map entries)

theorem Occurs.mem_references {reference : String} {v : Value} (occurs : Occurs reference v) :
    reference ∈ v.references := by
  induction occurs with
  | here isReference =>
      rw [Value.references, isReference]
      exact List.mem_append_left _ List.mem_cons_self
  | item inside _ ih =>
      rw [Value.references]
      exact Value.references_subset_of_mem inside ih
  | entry _ inside _ ih =>
      rw [Value.references]
      exact List.mem_append_right _ (Value.references_subset_of_mem_entries inside ih)

namespace Bundle

variable {b : Bundle}

/-- Which references can be reached from a value of a document, each with the document it is read in. -/
inductive ReachableFrom (b : Bundle) (origin : String) (start : Value) : String → String → Prop
  | start {reference : String} (inside : Occurs reference start) :
      ReachableFrom b origin start origin reference
  | behind {document reference inner : String} {target : Target} {v : Value}
      (reachable : ReachableFrom b origin start document reference)
      (lands : b.Lands document reference target v)
      (inside : Occurs inner v) : ReachableFrom b origin start target.document inner

abbrev Reachable (b : Bundle) : String → String → Prop := b.ReachableFrom b.rootKey b.root

/-- Whether a reference leads to something: its document can be loaded, and has the place. -/
def Resolves (b : Bundle) (document reference : String) : Prop :=
  ∃ target v, b.Lands document reference target v

theorem Lands.unique {c : Spot b} {reference reference' : String} {target target' : Target}
    {v v' : Value} (lands : b.Lands c.document reference target v)
    (isReference : c.reference? = some reference) (isReference' : c.reference? = some reference')
    (lands' : b.Lands c.document reference' target' v') :
    target' = target ∧ v' = v := by
  rw [isReference] at isReference'
  cases isReference'
  have sameTarget := lands'.1.symm.trans lands.1
  cases sameTarget
  exact ⟨rfl, Except.ok.inj (lands'.2.symm.trans lands.2)⟩

/--
Whether the mark that separates documents from pointers is in no key of a document, nor in the names
of the directory that keys are formed in.
-/
structure KeysUnmarked (b : Bundle) : Prop where
  root : Unmarked b.rootKey
  library : ∀ key document, b.library.answer key = .ok document → Unmarked key
  workdir : ∀ name ∈ b.workdir, Unmarked name

theorem KeysUnmarked.of_documents {documents : List (String × Value)}
    (isLibrary : b.library = .ofDocuments documents) (root : Unmarked b.rootKey)
    (library : ∀ entry ∈ documents, Unmarked entry.1) (workdir : ∀ name ∈ b.workdir, Unmarked name) :
    b.KeysUnmarked where
  root := root
  library := by
    intro key document found
    rw [isLibrary] at found
    exact library _ (Library.mem_of_ofDocuments found)
  workdir := workdir

theorem KeysUnmarked.of_holds (unmarked : b.KeysUnmarked) {key : String} {document : Value}
    (held : b.Holds key document) : Unmarked key := by
  unfold Holds answer at held
  split at held
  · next same => exact same ▸ unmarked.root
  · exact unmarked.library key document held

theorem Spot.occurs_of_reference {c : Spot b} {reference : String}
    (isReference : c.reference? = some reference) :
    Occurs reference c.value := by
  rw [reference?] at isReference
  cases isValue : c.value with
  | map entries =>
      rw [isValue] at isReference
      exact .here isReference
  | _ => rw [isValue] at isReference; cases isReference

theorem ReachableFrom.exists_document {origin document reference : String} {start : Value}
    (reachable : b.ReachableFrom origin start document reference)
    (written : ∃ whole, b.Holds origin whole ∧ start.references ⊆ whole.references) :
    ∃ whole, b.Holds document whole ∧ reference ∈ whole.references := by
  induction reachable with
  | start inside =>
      obtain ⟨whole, held, subset⟩ := written
      exact ⟨whole, held, subset inside.mem_references⟩
  | behind _ lands inside _ =>
      obtain ⟨whole, held, reached⟩ := part_ok_iff.1 lands.2
      exact ⟨whole, held, Pointer.references_follow reached inside.mem_references⟩

/-- Whether all references in a spot can be reached from a value of a document. -/
def Spot.LiesBehind (c : Spot b) (origin : String) (start : Value) : Prop :=
  ∀ reference, Occurs reference c.value → b.ReachableFrom origin start c.document reference

namespace Spot.LiesBehind

variable {c inner next : Spot b} {origin : String} {start : Value}

theorem part (behind : c.LiesBehind origin start) (inward : c.lead = .inward)
    (inside : inner ∈ c.parts) :
    inner.LiesBehind origin start := by
  intro reference occurs
  obtain ⟨sameDocument, _, member⟩ := of_mem_parts inside
  rw [sameDocument]
  apply behind
  have noReference := reference_of_inward inward
  rw [reference?] at noReference
  cases isValue : c.value with
  | list items =>
      rw [isValue] at member
      exact .item member occurs
  | map entries =>
      rw [isValue] at member noReference
      obtain ⟨⟨k, v⟩, here, same⟩ := List.mem_map.1 member
      subst same
      exact .entry noReference here occurs
  | _ => rw [isValue] at member; cases member

theorem onward (behind : c.LiesBehind origin start) (onward : c.lead = .onward next) :
    next.LiesBehind origin start := by
  intro reference occurs
  obtain ⟨own, target, isReference, lands, _, sameDocument, _⟩ := exists_of_onward onward
  rw [sameDocument]
  exact .behind (behind own (occurs_of_reference isReference)) lands occurs

end Spot.LiesBehind

theorem Spot.exists_dangling {c : Spot b} {failure : Failure} (stuck : c.lead = .stuck failure) :
    ∃ reference, c.reference? = some reference ∧ ¬ b.Resolves c.document reference := by
  obtain ⟨reference, isReference, why⟩ := exists_of_stuck stuck
  refine ⟨reference, isReference, ?_⟩
  rintro ⟨target, v, lands⟩
  rcases why with ⟨unnamed, _⟩ | ⟨target', named, _, missing⟩
  · rw [lands.1] at unnamed
    cases unnamed
  · rw [lands.1] at named
    cases named
    rw [lands.2] at missing
    cases missing

namespace Visits

variable {steps : Nat} {c : Spot b} {reference : String}

theorem holds (visited : b.Visits steps c) : ∃ document, b.Holds c.document document := by
  induction visited with
  | root => exact ⟨b.root, b.holds_root⟩
  | part _ _ inside ih => exact (Spot.of_mem_parts inside).1 ▸ ih
  | onward _ onward _ =>
      obtain ⟨_, _, _, lands, _, sameDocument, _⟩ := Spot.exists_of_onward onward
      obtain ⟨whole, held, _⟩ := part_ok_iff.1 lands.2
      exact ⟨whole, sameDocument ▸ held⟩

theorem exists_of_followed (visited : b.Visits steps c) {key : String} (before : key ∈ c.followed) :
    ∃ steps c' document reference target, b.Visits steps c' ∧ target.key = key ∧
      b.Lands document reference target c'.value ∧ c'.document = target.document := by
  induction visited with
  | root => cases before
  | part _ _ inside ih => exact ih ((Spot.of_mem_parts inside).2.1 ▸ before)
  | @onward steps c next visited onward ih =>
      obtain ⟨reference, target, _, lands, _, sameDocument, sameFollowed⟩ :=
        Spot.exists_of_onward onward
      rw [sameFollowed] at before
      rcases List.mem_cons.1 before with same | earlier
      · exact ⟨steps + 1, next, c.document, reference, target, visited.onward onward, same.symm,
          lands, sameDocument⟩
      · exact ih earlier

theorem exists_of_kept (unmarked : b.KeysUnmarked) (visited : b.Visits steps c)
    (kept : c.lead = .kept) :
    ∃ reference target steps c', c.reference? = some reference ∧ b.Visits steps c' ∧
      b.Lands c.document reference target c'.value ∧ c'.document = target.document := by
  obtain ⟨reference, target, isReference, named, before⟩ := Spot.exists_of_kept kept
  obtain ⟨steps', c', _, _, target', visited', sameKey, lands, sameDocument⟩ :=
    visited.exists_of_followed before
  obtain ⟨_, held⟩ := visited.holds
  obtain ⟨_, held', _⟩ := part_ok_iff.1 lands.2
  have free : Unmarked target.document :=
    Reference.unmarked_target unmarked.workdir (unmarked.of_holds held) named
  have same : target' = target := Target.eq_of_key_eq (unmarked.of_holds held') free sameKey
  subst same
  exact ⟨reference, target', steps', c', isReference, visited',
    ⟨named, part_ok_iff.2 (part_ok_iff.1 lands.2)⟩,
    sameDocument⟩

theorem exists_of_occurs (visited : b.Visits steps c) (occurs : Occurs reference c.value) :
    ∃ steps c', b.Visits steps c' ∧ c'.document = c.document ∧ c'.reference? = some reference := by
  generalize isValue : c.value = v at occurs
  induction occurs generalizing steps c with
  | here isReference =>
      refine ⟨steps, c, visited, rfl, ?_⟩
      rw [Spot.reference?, isValue]
      exact isReference
  | @item items v inside _ ih =>
      have inward : c.lead = .inward := Spot.lead_of_none (by rw [Spot.reference?, isValue]; rfl)
      obtain ⟨part, here, same⟩ := c.exists_part (by rw [isValue]; exact inside)
      obtain ⟨steps', c', visited', sameDocument, isReference⟩ := ih (visited.part inward here) same
      exact ⟨steps', c', visited', sameDocument.trans (Spot.of_mem_parts here).1, isReference⟩
  | @entry entries k v noReference inside _ ih =>
      have inward : c.lead = .inward := Spot.lead_of_none
        (by rw [Spot.reference?, isValue]; exact noReference)
      obtain ⟨part, here, same⟩ := c.exists_part (by rw [isValue]; exact List.mem_map_of_mem inside)
      obtain ⟨steps', c', visited', sameDocument, isReference⟩ := ih (visited.part inward here) same
      exact ⟨steps', c', visited', sameDocument.trans (Spot.of_mem_parts here).1, isReference⟩

theorem reachable_of_occurs (visited : b.Visits steps c) (occurs : Occurs reference c.value) :
    b.Reachable c.document reference := by
  have all : c.LiesBehind b.rootKey b.root := by
    clear occurs
    induction visited with
    | root => exact fun _ occurs => .start occurs
    | part _ inward inside ih => exact ih.part inward inside
    | onward _ onward ih => exact ih.onward onward
  exact all reference occurs

end Visits

/-- Every reference that can be reached is met, in the document it is read in. -/
theorem Reachable.exists_visits (unmarked : b.KeysUnmarked) {document reference : String}
    (reachable : b.Reachable document reference) :
    ∃ steps c, b.Visits steps c ∧ c.document = document ∧ c.reference? = some reference := by
  induction reachable with
  | start inside =>
      obtain ⟨steps, c, visited, sameDocument, isReference⟩ := Visits.root.exists_of_occurs inside
      exact ⟨steps, c, visited, sameDocument, isReference⟩
  | @behind document reference inner target v _ lands inside ih =>
      obtain ⟨steps, c, visited, sameDocument, isReference⟩ := ih
      subst sameDocument
      -- The target was met either from here or, if it was being followed already, before.
      have met : ∃ steps c', b.Visits steps c' ∧ c'.document = target.document ∧ c'.value = v := by
        cases lead : c.lead with
        | inward =>
            rw [Spot.reference_of_inward lead] at isReference
            cases isReference
        | kept =>
            obtain ⟨reference', target', steps', c', isReference', visited', lands',
              sameDocument⟩ :=
              visited.exists_of_kept unmarked lead
            obtain ⟨sameTarget, sameValue⟩ := lands.unique isReference isReference' lands'
            exact ⟨steps', c', visited', sameTarget ▸ sameDocument, sameValue⟩
        | onward next =>
            obtain ⟨reference', target', isReference', lands', _, sameDocument, _⟩ :=
              Spot.exists_of_onward lead
            obtain ⟨sameTarget, sameValue⟩ := lands.unique isReference isReference' lands'
            exact ⟨steps + 1, next, visited.onward lead, sameTarget ▸ sameDocument, sameValue⟩
        | stuck failure =>
            obtain ⟨reference', isReference', dangling⟩ := Spot.exists_dangling lead
            rw [isReference] at isReference'
            cases isReference'
            exact absurd ⟨target, v, lands⟩ dangling
      obtain ⟨steps', c', visited', sameDocument, sameValue⟩ := met
      subst sameValue
      obtain ⟨steps'', c'', visited'', same, isInner⟩ := visited'.exists_of_occurs inside
      exact ⟨steps'', c'', visited'', same.trans sameDocument, isInner⟩

theorem Visits.resolves (unmarked : b.KeysUnmarked) {steps : Nat} {c : Spot b} {reference : String}
    (visited : b.Visits steps c) (isReference : c.reference? = some reference)
    (free : ∀ failure, c.lead ≠ .stuck failure) : b.Resolves c.document reference := by
  cases lead : c.lead with
  | inward =>
      rw [Spot.reference_of_inward lead] at isReference
      cases isReference
  | kept =>
      obtain ⟨reference', target, _, c', isReference', _, lands, _⟩ :=
        visited.exists_of_kept unmarked lead
      rw [isReference] at isReference'
      cases isReference'
      exact ⟨target, c'.value, lands⟩
  | onward next =>
      obtain ⟨reference', target, isReference', lands, _⟩ := Spot.exists_of_onward lead
      rw [isReference] at isReference'
      cases isReference'
      exact ⟨target, next.value, lands⟩
  | stuck failure => exact absurd lead (free failure)

/--
Bundling succeeds exactly when all references that can be reached lead to something, as far as there
is room for all steps. Otherwise it refuses, as long as each of these references has a location that
is a key.
-/
theorem run_ok_iff_resolves (trees : b.Trees) (refuses : b.library.Refuses)
    (unmarked : b.KeysUnmarked) :
    ((∃ out, b.run = .ok out ∧ out.IsTree) ↔
      b.Fits ∧ ∀ document reference, b.Reachable document reference →
      b.Resolves document reference) ∧
    (b.Fits →
      (∀ document reference, b.Reachable document reference →
        ∃ target, Reference.target? b.workdir document reference = some target) →
      (∃ document reference, b.Reachable document reference ∧ ¬ b.Resolves document reference) →
      ∃ problem, b.run = .error (.spec problem)) := by
  -- A reachable reference is met by the walk, and a run with a result got stuck nowhere.
  have sound {out : Value} (done : b.run = .ok out) (document reference : String)
      (reachable : b.Reachable document reference) : b.Resolves document reference := by
    obtain ⟨steps, c, visited, sameDocument, isReference⟩ := reachable.exists_visits unmarked
    subst sameDocument
    exact visited.resolves unmarked isReference (not_stuck_of_run trees done visited)
  constructor
  · constructor
    · rintro ⟨out, done, _⟩
      exact ⟨.of_run trees done, sound done⟩
    · rintro ⟨fits, all⟩
      cases done : b.run with
      | ok out => exact ⟨out, rfl, tree_of_run trees done⟩
      | error failure =>
          rcases failure_of_run trees done with ⟨_, tight⟩ | ⟨steps, c, visited, stuck⟩
          · exact absurd fits tight
          · obtain ⟨reference, isReference, dangling⟩ := Spot.exists_dangling stuck
            have reachable := visited.reachable_of_occurs (Spot.occurs_of_reference isReference)
            exact absurd (all _ _ reachable) dangling
  · rintro fits named ⟨document, reference, reachable, dangling⟩
    rcases run_cases trees refuses with
      ⟨out, done, _⟩ | refused | ⟨_, tight | ⟨steps, c, own, visited, isOwn, unnamed⟩⟩
    · exact absurd (sound done _ _ reachable) dangling
    · exact refused
    · exact absurd fits tight
    · obtain ⟨target, found⟩ :=
        named _ _ (visited.reachable_of_occurs (Spot.occurs_of_reference isOwn))
      rw [unnamed] at found
      cases found

/-- Two documents in a circle, with references to nothing in them that cannot be reached. -/
def roundabout : Bundle where
  library := .ofDocuments [("/more.json", .record
    [("x", .record [("again", Reference.value "api.json#/a")]),
    ("unused", Reference.value "missing.json")])]
  workdir := []
  rootKey := "/api.json"
  root :=
  .record [("a", .record [("$ref", .text "more.json#/x"), ("beside", Reference.value "#/nowhere")])]

theorem roundabout_resolves :
    roundabout.Trees ∧ roundabout.library.Refuses ∧ roundabout.KeysUnmarked ∧
    (∃ out, roundabout.run = .ok out) ∧
    ∀ document reference, roundabout.Reachable document reference →
    roundabout.Resolves document reference := by
  have trees : roundabout.Trees := .of_documents rfl (by decide) (by decide)
  have refuses : roundabout.library.Refuses := Library.ofDocuments_refuses _
  have unmarked : roundabout.KeysUnmarked := .of_documents rfl (by decide) (by decide) (by decide)
  obtain ⟨out, resolved⟩ : ∃ out, roundabout.start.resolveIn 10 = .ok out :=
    ⟨_, by with_unfolding_all rfl⟩
  have done : roundabout.run = .ok out := run_of_resolveIn trees
    (.of_reach trees (by decide) (by decide)) resolved
  have all :=
    ((run_ok_iff_resolves trees refuses unmarked).1.1 ⟨out, done, tree_of_run trees done⟩).2
  exact ⟨trees, refuses, unmarked, ⟨out, done⟩, all⟩

theorem references_wrap (n : Nat) (v : Value) : (wrap n v).references = v.references := by
  induction n with
  | zero => rfl
  | succ n ih =>
      rw [wrap, Value.references, Value.referencesOfItems, ih]
      exact List.append_nil _

private theorem not_reachable_chasm {document reference : String} :
    ¬ chasm.Reachable document reference := by
  intro reachable
  induction reachable with
  | start inside =>
      have member := inside.mem_references
      have none : chasm.root.references = [] := by
        change [] ++ (Value.references (wrap 600 .null) ++ []) = []
        rw [references_wrap]
        rfl
      rw [none] at member
      cases member
  | behind _ _ _ ih => exact ih

/-- Seen from a directory whose name ends in the mark, the last reference has the absolute name of the first. -/
def markedDirectory : Bundle where
  library := .ofDocuments
    [("/w", .record [("y#", .record [("g", Reference.value "http://h/d")])]),
     ("http://h/d", Reference.value "mailto:x"),
     ("mailto:x", Reference.value "y#/g")]
  workdir := ["w#"]
  rootKey := "/api.json"
  root := Reference.value "w#/y#/g"

private theorem reachable_markedDirectory : markedDirectory.Reachable "mailto:x" "y#/g" := by
  have first : markedDirectory.Lands "/api.json" "w#/y#/g" ⟨"/w",
    "/y#/g"⟩ (Reference.value "http://h/d") :=
    ⟨by with_unfolding_all rfl, by with_unfolding_all rfl⟩
  have second : markedDirectory.Lands "/w" "http://h/d" ⟨"http://h/d",
    ""⟩ (Reference.value "mailto:x") :=
    ⟨by with_unfolding_all rfl, by with_unfolding_all rfl⟩
  have third : markedDirectory.Lands "http://h/d" "mailto:x" ⟨"mailto:x",
    ""⟩ (Reference.value "y#/g") :=
    ⟨by with_unfolding_all rfl, by with_unfolding_all rfl⟩
  have start : markedDirectory.Reachable "/api.json" "w#/y#/g" := .start (.here (by decide))
  exact .behind (.behind (.behind start first (.here (by decide))) second (.here (by decide))) third
    (.here (by decide))

private theorem not_resolves_markedDirectory : ¬ markedDirectory.Resolves "mailto:x" "y#/g" := by
  rintro ⟨target, v, named, found⟩
  have isTarget : Reference.target? markedDirectory.workdir "mailto:x" "y#/g" = some ⟨"/w#/y",
    "/g"⟩ := by
    with_unfolding_all rfl
  rw [isTarget] at named
  cases named
  have missing : markedDirectory.answer "/w#/y" = .error (.spec (.source (.missing "/w#/y"))) := by
    with_unfolding_all rfl
  obtain ⟨whole, held, _⟩ := part_ok_iff.1 found
  rw [Holds, missing] at held
  cases held

/--
That all references lead to something does not suffice, for a document can be too deep; nor is it
needed when the mark is in the name of the directory that keys are formed in, however near all the
documents are.
-/
theorem exists_run_not_resolves :
    (¬ ∀ b : Bundle, b.Trees → b.library.Refuses → b.KeysUnmarked → ((∃ out, b.run = .ok out) ↔
      ∀ document reference, b.Reachable document reference → b.Resolves document reference)) ∧
    (¬ ∀ b : Bundle,
    b.Trees → b.library.Refuses → Unmarked b.rootKey → (∀ key ∈ b.library.keys, Unmarked key) →
      b.Fits → ((∃ out, b.run = .ok out) ↔
        ∀ document reference, b.Reachable document reference → b.Resolves document reference)) := by
  constructor
  · intro always
    have unmarked : chasm.KeysUnmarked := .of_documents rfl (by decide) (by decide) (by decide)
    have exact := always chasm chasm_trees (Library.ofDocuments_refuses _) unmarked
    obtain ⟨out, done⟩ := exact.2 fun document reference reachable =>
      absurd reachable not_reachable_chasm
    rw [run_chasm] at done
    cases done
  · intro always
    have trees : markedDirectory.Trees := .of_documents rfl (by decide) (by decide)
    obtain ⟨out, resolved⟩ : ∃ out, markedDirectory.start.resolveIn 10 = .ok out :=
      ⟨_, by with_unfolding_all rfl⟩
    have done : markedDirectory.run = .ok out :=
      run_of_resolveIn trees (.of_reach trees (by decide) (by decide)) resolved
    have exact := always markedDirectory trees (Library.ofDocuments_refuses _) (by decide)
      (by decide) (.of_run trees done)
    exact not_resolves_markedDirectory (exact.1 ⟨out, done⟩ _ _ reachable_markedDirectory)

end Bundle

end QueryHooks

/-!
Bundling finds fault with the description or succeeds, where each reference that can be reached leads to a document
that is a tree, or to none for a fault of the description.
-/

namespace QueryHooks.Bundle

variable {b : Bundle}

/-- Whether a reference names a document, and loading it gives a tree or finds fault with the description. -/
def LeadsToTree (b : Bundle) (document reference : String) : Prop :=
  ∃ target, Reference.target? b.workdir document reference = some target ∧
    Ends (b.answer target.document) Value.IsTree Failure.OfSpec

variable (leads : ∀ document reference, b.Reachable document reference → b.LeadsToTree document reference)

include leads

theorem Visits.tree_of_leads (root : b.root.IsTree) {steps : Nat} {c : Spot b} (visited : b.Visits steps c) :
    c.value.IsTree := by
  induction visited with
  | root => exact root
  | part _ _ inside ih => exact ih.part (Spot.of_mem_parts inside).2.2
  | onward visited onward _ =>
      obtain ⟨reference, target, isReference, lands, -⟩ := Spot.exists_of_onward onward
      obtain ⟨whole, held, reached⟩ := part_ok_iff.1 lands.2
      obtain ⟨target', named, answered⟩ :=
        leads _ reference (visited.reachable_of_occurs (Spot.occurs_of_reference isReference))
      cases lands.1.symm.trans named
      exact (Pointer.tree_of_follow (answered.done whole held) reached).1

theorem reported_run (root : b.root.IsTree) (fits : b.Fits) : Reported b.run where
  done _ _ := trivial
  failed failure failed := by
    have trees : ∀ steps c, b.Visits steps c → c.value.IsTree := fun _ _ visited => visited.tree_of_leads leads root
    rcases failure_of_visits trees failed with ⟨-, tight⟩ | ⟨steps, c, visited, stuck⟩
    · exact absurd fits tight
    · obtain ⟨reference, isReference, why⟩ := Spot.exists_of_stuck stuck
      obtain ⟨target, named, answered⟩ :=
        leads _ reference (visited.reachable_of_occurs (Spot.occurs_of_reference isReference))
      rcases why with ⟨unnamed, -⟩ | ⟨target', named', -, missing⟩
      · cases named.symm.trans unnamed
      · cases named.symm.trans named'
        exact spec_of_part answered.failed missing

end QueryHooks.Bundle
