import QueryHooks.Json.Reader
import QueryHooks.Proofs.Failure
import QueryHooks.Proofs.Value.All

/-! The names in a JSON text: every mapping that is read has texts for keys. -/

namespace QueryHooks

namespace Value

/-- Whether the keys of all mappings in a value are texts. -/
def HasTextKeys (v : Value) : Prop :=
  ∀ entries, .map entries ∈ v.all → ∀ e ∈ entries, ∃ name, e.1 = .text name

/-- Entries whose keys are texts, and so are all keys in their values. -/
def AreNamed (entries : List (Value × Value)) : Prop :=
  ∀ e ∈ entries, (∃ name, e.1 = .text name) ∧ e.2.HasTextKeys

theorem HasTextKeys.part {v part : Value} (named : v.HasTextKeys) (inside : part ∈ v.parts) : part.HasTextKeys :=
  fun entries below => named entries (all_part inside below)

theorem hasTextKeys_of_parts {v : Value} (noMap : v.isMap = false) (parts : ∀ part ∈ v.parts, part.HasTextKeys) :
    v.HasTextKeys := by
  intro entries inside
  rcases mem_all_iff.1 inside with rfl | ⟨part, isPart, below⟩
  · cases noMap
  · exact parts part isPart entries below

theorem hasTextKeys_map {entries : List (Value × Value)} (named : AreNamed entries) : (map entries).HasTextKeys := by
  intro others inside
  rcases mem_all_iff.1 inside with same | ⟨part, isPart, below⟩
  · cases same
    exact fun e member => (named e member).1
  · obtain ⟨e, member, rfl⟩ := List.mem_map.1 isPart
    exact (named e member).2 others below

theorem areNamed_put {key v : Value} {entries : List (Value × Value)} (named : AreNamed entries)
    (isText : ∃ name, key = .text name) (below : v.HasTextKeys) : AreNamed (put key v entries) := by
  induction entries with
  | nil => exact List.forall_mem_singleton.2 ⟨isText, below⟩
  | cons e rest ih =>
      obtain ⟨first, others⟩ := List.forall_mem_cons.1 named
      rw [put]
      split
      · exact List.forall_mem_cons.2 ⟨⟨first.1, below⟩, others⟩
      · exact List.forall_mem_cons.2 ⟨first, ih others⟩

theorem areNamed_ofPairs {pairs : List (Value × Value)} (named : AreNamed pairs) : AreNamed (ofPairs pairs) := by
  suffices stored : ∀ entries, AreNamed entries →
      AreNamed (pairs.foldl (fun entries e => put e.1 e.2 entries) entries) from
    stored [] fun _ impossible => absurd impossible List.not_mem_nil
  induction pairs with
  | nil => exact fun _ start => start
  | cons e rest ih =>
      obtain ⟨first, others⟩ := List.forall_mem_cons.1 named
      exact fun entries start => ih others _ (areNamed_put start first.1 first.2)

end Value

namespace Json

open Value (AreNamed)

theorem hasTextKeys_plain {position : Nat} {chars : List Char} {r : Read Value}
    (done : plain position chars = .ok r) : r.value.HasTextKeys := by
  have leaf {v : Value} (noMap : v.isMap = false) (noParts : v.parts = []) : v.HasTextKeys :=
    Value.hasTextKeys_of_parts noMap fun part inside => absurd (noParts ▸ inside) List.not_mem_nil
  unfold plain at done
  split at done
  · next v count rest found =>
      cases done
      unfold word? at found
      split at found <;> cases found <;> exact leaf rfl rfl
  · split at done
    · cases done
    · obtain ⟨v, isValue, done⟩ := exists_of_bind done
      cases done
      unfold Numeral.value at isValue
      split at isValue
      · split at isValue <;> cases isValue
        exact leaf rfl rfl
      · cases isValue
        exact leaf rfl rfl

/-- What the three readers find has texts for keys. -/
structure FindsNames (fuel : Nat) : Prop where
  ofValue : ∀ {depth position chars r}, value fuel depth position chars = .ok r → r.value.HasTextKeys
  ofMembers : ∀ {depth position chars r}, members fuel depth position chars = .ok r → AreNamed r.value
  ofElements : ∀ {depth position chars r}, elements fuel depth position chars = .ok r →
    ∀ v ∈ r.value, v.HasTextKeys

variable {fuel depth position : Nat} {chars : List Char}

theorem FindsNames.value_succ (finds : FindsNames fuel) {r : Read Value}
    (done : value (fuel + 1) depth position chars = .ok r) : r.value.HasTextKeys := by
  unfold value at done
  split at done
  · obtain ⟨s, -, done⟩ := exists_of_bind done
    cases done
    exact Value.hasTextKeys_of_parts rfl fun part inside => absurd inside List.not_mem_nil
  · split at done
    · cases done
    split at done
    · cases done
      exact Value.hasTextKeys_map fun e inside => absurd inside List.not_mem_nil
    · obtain ⟨r', read, done⟩ := exists_of_bind done
      cases done
      exact Value.hasTextKeys_map (Value.areNamed_ofPairs (finds.ofMembers read))
  · split at done
    · cases done
    split at done
    · cases done
      exact Value.hasTextKeys_of_parts rfl fun part inside => absurd inside List.not_mem_nil
    · obtain ⟨r', read, done⟩ := exists_of_bind done
      cases done
      exact Value.hasTextKeys_of_parts rfl (finds.ofElements read)
  · exact hasTextKeys_plain done

theorem FindsNames.members_succ (finds : FindsNames fuel) {r : Read (List (Value × Value))}
    (done : members (fuel + 1) depth position chars = .ok r) : AreNamed r.value := by
  unfold members at done
  split at done
  · obtain ⟨name, -, done⟩ := exists_of_bind done
    split at done
    · split at done
      obtain ⟨v, read, done⟩ := exists_of_bind done
      have first : (∃ text, (Value.text name.value) = .text text) ∧ v.value.HasTextKeys :=
        ⟨⟨_, rfl⟩, finds.ofValue read⟩
      split at done
      · cases done
        exact List.forall_mem_singleton.2 first
      · split at done
        obtain ⟨r', others, done⟩ := exists_of_bind done
        cases done
        exact List.forall_mem_cons.2 ⟨first, finds.ofMembers others⟩
      · cases done
    · cases done
  · cases done

theorem FindsNames.elements_succ (finds : FindsNames fuel) {r : Read (List Value)}
    (done : elements (fuel + 1) depth position chars = .ok r) : ∀ v ∈ r.value, v.HasTextKeys := by
  unfold elements at done
  obtain ⟨v, read, done⟩ := exists_of_bind done
  have first := finds.ofValue read
  split at done
  · cases done
    exact List.forall_mem_singleton.2 first
  · split at done
    obtain ⟨r', others, done⟩ := exists_of_bind done
    cases done
    exact List.forall_mem_cons.2 ⟨first, finds.ofElements others⟩
  · cases done

theorem findsNames (fuel : Nat) : FindsNames fuel := by
  induction fuel with
  | zero =>
      constructor
      · intro depth position chars r done
        rw [value] at done
        cases done
      · intro depth position chars r done
        rw [members] at done
        cases done
      · intro depth position chars r done
        rw [elements] at done
        cases done
  | succ fuel ih => exact ⟨ih.value_succ, ih.members_succ, ih.elements_succ⟩

/-- All keys in what a JSON text denotes are texts. -/
theorem hasTextKeys_read {v : Value} (done : read chars = .ok v) : v.HasTextKeys := by
  unfold read at done
  split at done
  · cases done
  · split at done
    obtain ⟨r, valued, done⟩ := exists_of_bind done
    split at done
    · cases done
      exact (findsNames _).ofValue valued
    · cases done

end Json

end QueryHooks
