import Mathlib.Data.List.Nodup
import QueryHooks.Api.Operation
import QueryHooks.Proofs.Grouped

/-!
What grouping gives: each tag once, in the order in which the tags are first seen, and with it the
operations that have it, in their own order.
-/

namespace QueryHooks.Api

namespace Groups

theorem insert_eq_put (op : Operation) (groups : Groups) :
    insert op groups = Grouped.put op.tag [op] (· ++ [op]) groups := by
  induction groups with
  | nil => rfl
  | cons group rest ih => rw [insert, Grouped.put, ih]

/-- The operations of each tag, tags in the order in which they are first seen. -/
def byTag (ops : List Operation) : Groups :=
  (ops.map (·.tag)).eraseDups.map fun tag => (tag, ops.filter (·.tag == tag))

/-- A further operation joins those of its tag, or starts a new group. -/
theorem insert_byTag (op : Operation) (ops : List Operation) :
    insert op (byTag ops) = byTag (ops ++ [op]) := by
  have joined := Grouped.put_of (·.tag) id (· ++ [op]) op (fun _ _ => rfl) ops
  have unviewed (groups : Groups) : groups.map (fun group => (group.1, id group.2)) = groups := List.map_id groups
  rw [unviewed, unviewed] at joined
  rw [insert_eq_put]
  exact joined

theorem ofOperations_eq (ops : List Operation) : ofOperations ops = byTag ops := by
  induction ops using List.reverseRecOn with
  | nil => rfl
  | append_singleton ops op ih =>
      rw [ofOperations] at ih
      rw [ofOperations, List.foldl_append, ih]
      exact insert_byTag op ops

end Groups

namespace Model

variable {model : Model} {tag : String} {ops : List Operation}

theorem groups_eq (model : Model) : model.groups = Groups.byTag model.operations :=
  Groups.ofOperations_eq model.operations

theorem map_fst_groups (model : Model) : model.groups.map (·.1) = (model.operations.map (·.tag)).eraseDups := by
  rw [groups_eq]
  exact Grouped.keys_of (·.tag) model.operations

theorem nodup_tags (model : Model) : (model.groups.map (·.1)).Nodup := by
  rw [map_fst_groups]
  exact Grouped.nodup_eraseDups _

theorem mem_groups_iff :
    (tag, ops) ∈ model.groups ↔
      tag ∈ model.operations.map (·.tag) ∧ ops = model.operations.filter (·.tag == tag) := by
  rw [groups_eq, Groups.byTag, List.mem_map]
  constructor
  · rintro ⟨_, inside, same⟩
    cases same
    exact ⟨List.mem_eraseDups.1 inside, rfl⟩
  · rintro ⟨inside, rfl⟩
    exact ⟨tag, List.mem_eraseDups.2 inside, rfl⟩

theorem mem_tags_iff : tag ∈ model.groups.map (·.1) ↔ ∃ op ∈ model.operations, op.tag = tag := by
  rw [map_fst_groups, List.mem_eraseDups, List.mem_map]

/-- What tells the tags of operations apart tells their groups apart. -/
theorem nodup_map_groups {α : Type} {f : String → α}
    (apart : ∀ a ∈ model.operations, ∀ b ∈ model.operations, f a.tag = f b.tag → a.tag = b.tag) :
    (model.groups.map fun group => f group.1).Nodup := by
  have tags : (model.groups.map fun group => f group.1) = (model.groups.map (·.1)).map f := by
    rw [List.map_map]
    rfl
  rw [tags]
  refine List.Nodup.map_on ?_ model.nodup_tags
  intro a insideA b insideB same
  obtain ⟨opA, knownA, rfl⟩ := mem_tags_iff.1 insideA
  obtain ⟨opB, knownB, rfl⟩ := mem_tags_iff.1 insideB
  exact apart opA knownA opB knownB same

/-- Grouping neither loses nor repeats an operation. -/
theorem perm_groups (model : Model) : (model.groups.flatMap (·.2)).Perm model.operations := by
  rw [groups_eq]
  exact Grouped.perm_of (·.tag) model.operations

/-- Operations and further ones are grouped as the first are, and then the others. -/
theorem groups_append (model other : Model) :
    ({ model with operations := model.operations ++ other.operations } : Model).groups =
      Grouped.merge model.groups other.groups := by
  rw [groups_eq, groups_eq, groups_eq]
  exact Grouped.of_append (·.tag) model.operations other.operations

end Model

/-- How the groups of a model make up its operations, and how they grow. -/
structure IsPartition (model : Model) : Prop where
  tags : model.groups.map (·.1) = (model.operations.map (·.tag)).eraseDups
  own : ∀ group ∈ model.groups, group.2 = model.operations.filter (·.tag == group.1) ∧ group.2 ≠ []
  whole : (model.groups.flatMap (·.2)).Perm model.operations
  grows : ∀ other : Model, ({ model with operations := model.operations ++ other.operations } : Model).groups =
    Grouped.merge model.groups other.groups

/--
The tags of the groups are those of the operations, each where it is first seen. A group holds just the operations of
its tag, in their order, and at least one. All together they are the operations of the model, and the groups of two
models' operations are those of the first, with the second's operations at the end of known tags and its new tags last.
-/
theorem Model.groups_partition (model : Model) : IsPartition model where
  tags := model.map_fst_groups
  own := by
    rintro ⟨tag, ops⟩ inside
    obtain ⟨declared, rfl⟩ := mem_groups_iff.1 inside
    obtain ⟨op, known, rfl⟩ := List.mem_map.1 declared
    exact ⟨rfl, List.ne_nil_of_mem (List.mem_filter.2 ⟨known, beq_self_eq_true _⟩)⟩
  whole := model.perm_groups
  grows := model.groups_append

end QueryHooks.Api
