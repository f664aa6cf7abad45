import Mathlib.Data.List.MinMax
import Mathlib.Order.Nat
import QueryHooks.Proofs.Bundle.Resolve

/-!
Bundling ends. Its calls form no infinite chain, and how many steps away they lie is bounded by the
number of references and the depth of the documents. What it ends with is a document or a refusal of
the specification, unless a location cannot be made a key or too many steps lie between the root and
what it meets.
-/

namespace QueryHooks

/-- Whether loading a document fails in no other way than by refusing it. -/
def Library.Refuses (library : Library) : Prop :=
  ∀ key failure, library.answer key = .error failure → ∃ problem, failure = .spec problem

private def answerAmong (documents : List (String × Value)) (key : String) : Except Failure Value :=
  match documents.find? fun entry => entry.1 == key with
  | some entry => .ok entry.2
  | none => .error (.spec (.source (.missing key)))

private theorem mem_of_answerAmong {documents : List (String × Value)} {key : String}
    {document : Value} (found : answerAmong documents key = .ok document) :
    (key, document) ∈ documents := by
  unfold answerAmong at found
  split at found
  · next entry here =>
      have same := List.find?_some here
      injection found with sameDocument
      rw [← eq_of_beq same, ← sameDocument]
      exact List.mem_of_find?_eq_some here
  · cases found

def Library.ofDocuments (documents : List (String × Value)) : Library where
  keys := documents.map Prod.fst
  answer := answerAmong documents
  closed := fun found => List.mem_map_of_mem (mem_of_answerAmong found)

theorem Library.mem_of_ofDocuments {documents : List (String × Value)} {key : String}
    {document : Value} (found : (ofDocuments documents).answer key = .ok document) :
    (key, document) ∈ documents :=
  mem_of_answerAmong found

theorem Library.ofDocuments_refuses (documents : List (String × Value)) :
    (ofDocuments documents).Refuses := by
  intro key failure missing
  unfold ofDocuments answerAmong at missing
  dsimp only at missing
  split at missing
  · cases missing
  · injection missing with same
    exact ⟨_, same.symm⟩

namespace Bundle

variable {b : Bundle}

theorem Trees.of_documents {documents : List (String × Value)}
    (isLibrary : b.library = .ofDocuments documents) (root : b.root.IsTree)
    (trees : ∀ entry ∈ documents, entry.2.IsTree) : b.Trees where
  root := root
  library := by
    intro key document found
    rw [isLibrary] at found
    exact trees _ (Library.mem_of_ofDocuments found)

def height (b : Bundle) : Nat := (b.documents.map fun entry => entry.2.depth).foldr max 0

/-- How many steps away a call can lie: each target is followed once, and between two of them lies one document. -/
def reach (b : Bundle) : Nat := (2 * b.height + 1) * b.targets.length + 2 * b.height

theorem depth_le_height {key : String} {document : Value} (held : b.Holds key document) :
    document.depth ≤ b.height := by
  exact List.le_max_of_le (List.mem_map.2 ⟨(key, document), mem_documents held, rfl⟩)
    (Nat.le_refl _)

private theorem unseen_nil (b : Bundle) : b.unseen [] = b.targets.length := by
  rw [unseen, List.countP_eq_length]
  intro key _
  rfl

/-- The depth that is left below a spot and the targets that are left to follow there bound the steps. -/
private theorem Visits.measure (trees : b.Trees) {steps : Nat} {c : Spot b}
    (visited : b.Visits steps c) :
    steps + 2 * c.value.depth + (2 * b.height + 1) * b.unseen c.followed ≤ b.reach := by
  -- A part is less deep by one, for two steps. A target is as deep as any document, but one fewer is left to follow.
  induction visited with
  | root =>
      have shallow : b.root.depth ≤ b.height := depth_le_height b.holds_root
      have none : b.unseen b.start.followed = b.targets.length := unseen_nil b
      have value : b.start.value = b.root := rfl
      rw [none, value, reach]
      omega
  | part visited inward inside ih =>
      obtain ⟨_, sameFollowed, member⟩ := Spot.of_mem_parts inside
      have shallower := Value.depth_part member
      rw [sameFollowed]
      omega
  | @onward steps c next visited onward ih =>
      obtain ⟨_, _, _, lands, _⟩ := Spot.exists_of_onward onward
      obtain ⟨whole, held, reached⟩ := part_ok_iff.1 lands.2
      have inDocument := (Pointer.tree_of_follow (trees.of_holds held) reached).2
      have shallow : next.value.depth ≤ b.height := Nat.le_trans inDocument (depth_le_height held)
      have fewer := Spot.unseen_of_onward onward
      have paid : (2 * b.height + 1) * (b.unseen next.followed + 1) ≤
        (2 * b.height + 1) * b.unseen c.followed :=
        Nat.mul_le_mul_left _ fewer
      rw [Nat.mul_add] at paid
      omega

theorem Visits.steps_le_reach (trees : b.Trees) {steps : Nat} {c : Spot b}
    (visited : b.Visits steps c) :
    steps ≤ b.reach := by
  have measured := visited.measure trees
  omega

theorem Fits.of_reach (trees : b.Trees) (shallow : b.root.depth ≤ maxDepth)
    (near : b.reach ≤ maxSteps) : b.Fits where
  depth := shallow
  steps := fun _ _ visited => Nat.le_trans (visited.steps_le_reach trees) near

/-- Whether nothing below a spot is more steps away than there is room for, found in so many calls. -/
def Spot.hasRoom : Nat → Nat → Spot b → Bool
  | 0, _, _ => false
  | calls + 1, room, c =>
      match c.lead with
      | .inward => c.parts.all fun part => decide (2 ≤ room) && part.hasRoom calls (room - 2)
      | .onward next => decide (1 ≤ room) && next.hasRoom calls (room - 1)
      | _ => true

private theorem Visits.hasRoom {calls room : Nat} (start : b.start.hasRoom calls room = true)
    {steps : Nat} {c : Spot b} (visited : b.Visits steps c) :
    ∃ calls left, c.hasRoom calls left = true ∧
    steps + left = room := by
  induction visited with
  | root => exact ⟨calls, room, start, Nat.zero_add room⟩
  | @part steps c part visited inward inside ih =>
      obtain ⟨calls, left, enough, sum⟩ := ih
      cases calls with
      | zero => cases enough
      | succ calls =>
          rw [Spot.hasRoom, inward] at enough
          have below := List.all_eq_true.1 enough part inside
          rw [Bool.and_eq_true, decide_eq_true_eq] at below
          exact ⟨calls, left - 2, below.2, by omega⟩
  | @onward steps c next visited onward ih =>
      obtain ⟨calls, left, enough, sum⟩ := ih
      cases calls with
      | zero => cases enough
      | succ calls =>
          rw [Spot.hasRoom, onward, Bool.and_eq_true, decide_eq_true_eq] at enough
          exact ⟨calls, left - 1, enough.2, by omega⟩

theorem Fits.of_hasRoom (shallow : b.root.depth ≤ maxDepth) {calls : Nat}
    (start : b.start.hasRoom calls maxSteps = true) : b.Fits where
  depth := shallow
  steps := by
    intro steps c visited
    obtain ⟨_, left, _, sum⟩ := visited.hasRoom start
    omega

theorem run_of_resolveIn (trees : b.Trees) (fits : b.Fits) {calls : Nat} {out : Value}
    (done : b.start.resolveIn calls = .ok out) : b.run = .ok out :=
  (run_ok_iff trees).2 ⟨fits, Spot.resolve_of_resolveIn done⟩

/-- Whether a reference that bundling meets has a location that is no key of a document. -/
def MeetsNoKey (b : Bundle) : Prop :=
  ∃ steps c reference, b.Visits steps c ∧ c.reference? = some reference ∧
    Reference.target? b.workdir c.document reference = none

private theorem answer_refuses (refuses : b.library.Refuses) {key : String} {failure : Failure}
    (missing : b.answer key = .error failure) : ∃ problem, failure = .spec problem := by
  unfold answer at missing
  split at missing
  · cases missing
  · exact refuses key failure missing

/-- A part is missed for a fault of the description if its document is. -/
theorem spec_of_part {reference : String} {target : Target} {failure : Failure}
    (answered : ∀ failure, b.answer target.document = .error failure → ∃ problem, failure = .spec problem)
    (missing : b.part reference target = .error failure) : ∃ problem, failure = .spec problem := by
  unfold part at missing
  split at missing
  · next cause absent =>
      injection missing with same
      obtain ⟨problem, isSpec⟩ := answered cause absent
      subst same isSpec
      cases problem <;> exact ⟨_, rfl⟩
  · split at missing
    · next problem _ =>
        injection missing with same
        exact ⟨.pointer reference problem, same.symm⟩
    · cases missing

theorem run_cases (trees : b.Trees) (refuses : b.library.Refuses) :
    (∃ out, b.run = .ok out ∧ out.IsTree) ∨ (∃ problem, b.run = .error (.spec problem)) ∨
      (b.run = .error .unexpected ∧ (¬ b.Fits ∨ b.MeetsNoKey)) := by
  cases done : b.run with
  | ok out => exact .inl ⟨out, rfl, tree_of_run trees done⟩
  | error failure =>
      rcases failure_of_run trees done with ⟨same, tight⟩ | ⟨steps, c, visited, stuck⟩
      · exact .inr (.inr ⟨by rw [same], .inl tight⟩)
      · obtain ⟨reference, isReference, ⟨unnamed, same⟩ | ⟨target, _, _, missing⟩⟩ :=
          Spot.exists_of_stuck stuck
        · exact .inr
            (.inr ⟨by rw [same], .inr ⟨steps, c, reference, visited, isReference, unnamed⟩⟩)
        · obtain ⟨problem, same⟩ := spec_of_part (fun _ absent => answer_refuses refuses absent) missing
          exact .inr (.inl ⟨problem, by rw [same]⟩)

/-- Bundling ends, and what it ends with as far as its limits and the names of its documents let it go. -/
structure Terminates (b : Bundle) : Prop where
  calls : WellFounded fun c' c : Spot b => c.Calls c'
  steps : ∀ steps c, b.Visits steps c → steps ≤ b.reach
  outcome : b.Fits → ¬ b.MeetsNoKey →
    (∃ out, b.run = .ok out ∧ out.IsTree) ∨ ∃ problem, b.run = .error (.spec problem)

theorem run_terminates (trees : b.Trees) (refuses : b.library.Refuses) : b.Terminates where
  calls := Spot.calls_wellFounded
  steps := fun _ _ visited => visited.steps_le_reach trees
  outcome := by
    intro fits named
    rcases run_cases trees refuses with done | refused | ⟨_, tight | unnamed⟩
    · exact .inl done
    · exact .inr refused
    · exact absurd fits tight
    · exact absurd unnamed named

/-- Two documents full of circles: through themselves, through each other, and through places around a reference. -/
def circles : Bundle where
  library := .ofDocuments [("/more.json", .record
    [("x", Reference.value "./more.json#/x"), ("y", Reference.value "sub/../api.json#/a"),
    ("z", Reference.value "#/")])]
  workdir := []
  rootKey := "/api.json"
  root :=
  .record [("a", .list [Reference.value "#/a", Reference.value "#/%61", Reference.value "more.json#/y"]),
    ("b", Reference.value "#"), ("c", Reference.value "more.json")]

theorem circles_terminates : circles.Trees ∧ circles.library.Refuses ∧ circles.Terminates := by
  have trees : circles.Trees := .of_documents rfl (by decide) (by decide)
  have refuses : circles.library.Refuses := Library.ofDocuments_refuses _
  exact ⟨trees, refuses, run_terminates trees refuses⟩

def wrap : Nat → Value → Value
  | 0, v => v
  | n + 1, v => .list [wrap n v]

theorem depth_wrap (n : Nat) (v : Value) : (wrap n v).depth = n + v.depth := by
  induction n with
  | zero => exact (Nat.zero_add _).symm
  | succ n ih =>
      rw [wrap, Value.depth, Value.depthOfAll, Value.depthOfAll, ih, Nat.succ_add]
      exact congrArg (· + 1) (Nat.max_zero _)

theorem isTree_wrap (n : Nat) {v : Value} (tree : v.IsTree) : (wrap n v).IsTree := by
  induction n with
  | zero => exact tree
  | succ n ih =>
      rw [Value.IsTree, wrap, Value.isEndless, Value.anyIsEndless, ih]
      rfl

/-- A document without references that is too deep. -/
def chasm : Bundle where
  library := .ofDocuments []
  workdir := []
  rootKey := "/api.json"
  root := .record [("a", wrap 600 .null)]

theorem chasm_trees : chasm.Trees := by
  refine .of_documents rfl ?_ (by decide)
  have inner : (wrap 600 .null).isEndless = false := isTree_wrap 600 rfl
  change Value.anyEntryIsEndless [(.text "a", wrap 600 .null)] = false
  rw [Value.anyEntryIsEndless, inner]
  rfl

theorem run_of_deep (deep : maxDepth < b.root.depth) : b.run = .error .unexpected := by
  rw [run, if_pos deep]

theorem run_chasm : chasm.run = .error .unexpected := by
  apply run_of_deep
  change maxDepth < Value.depthOfEntries [(.text "a", wrap 600 .null)] + 1
  rw [Value.depthOfEntries, depth_wrap]
  decide

/-- Not every bundle ends with a document or a refusal: a document can be too deep. -/
theorem exists_run_unexpected : ¬ ∀ b : Bundle, b.Trees → b.library.Refuses →
    (∃ out, b.run = .ok out ∧ out.IsTree) ∨ ∃ problem, b.run = .error (.spec problem) := by
  intro always
  rcases always chasm chasm_trees (Library.ofDocuments_refuses _) with
    ⟨out, done, _⟩ | ⟨problem, refused⟩
  · rw [run_chasm] at done
    cases done
  · rw [run_chasm] at refused
    cases refused

end Bundle

end QueryHooks
