import Mathlib.Data.List.Nodup
import Mathlib.Data.Nat.Init
import QueryHooks.Proofs.Grouped
import QueryHooks.Proofs.TypeScript.Script
import QueryHooks.Proofs.TypeScript.Tokens

/-!
Object literals as the language reads and evaluates them. The object that a literal makes is known by its own
properties, in the order in which they are gone through.
-/

namespace QueryHooks.TypeScript

/-- A literal as it is written: a text, or an object with its members in their order. -/
inductive Literal
  | text (units : List Nat)
  | object (members : List (List Nat × Literal))

namespace Literal

/-! ## Reading -/

/-- The key that a token is before a colon. -/
def key? : Token → Option (List Nat)
  | .name chars => some (textUnits chars)
  | .text units => some units
  | .mark _ => none

/-- The key that sets what an object inherits from, and is no property of its own. -/
def prototypeKey : List Nat := textUnits "__proto__".toList

/-- What is read from tokens, and fewer tokens behind it. -/
abbrev Step (α : Type) (tokens : List Token) := α × { rest : List Token // rest.length < tokens.length }

mutual

/-- The literal that tokens start with. The key of what an object inherits from stands in it once at most. -/
def read? (tokens : List Token) : Option (Step Literal tokens) :=
  match tokens with
  | .text units :: rest => some (.text units, ⟨rest, by simp⟩)
  | .mark '\x7b' :: rest =>
      match members? rest with
      | some (members, ⟨after, fewer⟩) =>
          if members.countP (·.1 == prototypeKey) ≤ 1 then
            some (.object members, ⟨after, by simp only [List.length_cons]; omega⟩)
          else none
      | none => none
  | _ => none
termination_by tokens.length

/-- The members of an object up to its closing brace, with a comma between them, and one behind the last as well. -/
def members? (tokens : List Token) : Option (Step (List (List Nat × Literal)) tokens) :=
  match tokens with
  | .mark '\x7d' :: rest => some ([], ⟨rest, by simp⟩)
  | token :: .mark ':' :: rest =>
      match key? token, read? rest with
      | some key, some (value, ⟨.mark ',' :: others, fewer⟩) =>
          match members? others with
          | some (members, ⟨after, less⟩) =>
              some ((key, value) :: members, ⟨after, by simp only [List.length_cons] at fewer ⊢; omega⟩)
          | none => none
      | some key, some (value, ⟨.mark '\x7d' :: after, fewer⟩) =>
          some ([(key, value)], ⟨after, by simp only [List.length_cons] at fewer ⊢; omega⟩)
      | _, _ => none
  | _ => none
termination_by tokens.length
decreasing_by
  · simp only [List.length_cons]
    omega
  · simp only [List.length_cons] at fewer ⊢
    omega

end

/-- Tokens start with a literal, and others are behind it. -/
def Reads (tokens : List Token) (literal : Literal) (after : List Token) : Prop :=
  ∃ fewer, read? tokens = some (literal, ⟨after, fewer⟩)

/-- Tokens start with members and a closing brace, and others are behind it. -/
def ReadsMembers (tokens : List Token) (members : List (List Nat × Literal)) (after : List Token) : Prop :=
  ∃ fewer, members? tokens = some (members, ⟨after, fewer⟩)

variable {tokens after rest : List Token} {literal : Literal} {members : List (List Nat × Literal)}

theorem reads_text_iff {units : List Nat} :
    Reads (.text units :: rest) literal after ↔ literal = .text units ∧ after = rest := by
  rw [Reads, read?]
  constructor
  · rintro ⟨_, same⟩
    cases same
    exact ⟨rfl, rfl⟩
  · rintro ⟨rfl, rfl⟩
    exact ⟨_, rfl⟩

theorem reads_object_iff : Reads (.mark '\x7b' :: rest) literal after ↔
    ∃ members, ReadsMembers rest members after ∧ members.countP (·.1 == prototypeKey) ≤ 1 ∧
      literal = .object members := by
  rw [Reads, read?]
  constructor
  · rintro ⟨_, same⟩
    split at same
    · next members after' fewer found =>
        split at same
        · next once =>
            cases same
            exact ⟨members, ⟨fewer, found⟩, once, rfl⟩
        · cases same
    · cases same
  · rintro ⟨members, ⟨fewer, found⟩, once, rfl⟩
    refine ⟨by simp only [List.length_cons]; omega, ?_⟩
    rw [found]
    simp only [once, if_true]

theorem readsMembers_close_iff : ReadsMembers (.mark '\x7d' :: rest) members after ↔ members = [] ∧ after = rest := by
  rw [ReadsMembers, members?]
  constructor
  · rintro ⟨_, same⟩
    cases same
    exact ⟨rfl, rfl⟩
  · rintro ⟨rfl, rfl⟩
    exact ⟨_, rfl⟩

/-- A member is read, and then further ones behind a comma, or the end. -/
theorem readsMembers_iff {token : Token} {key : List Nat} (isKey : key? token = some key) :
    ReadsMembers (token :: .mark ':' :: rest) members after ↔ ∃ value,
      (∃ others more, Reads rest value (.mark ',' :: others) ∧ ReadsMembers others more after ∧
        members = (key, value) :: more) ∨
      Reads rest value (.mark '\x7d' :: after) ∧ members = [(key, value)] := by
  have noBrace : token ≠ .mark '\x7d' := by
    rintro rfl
    cases isKey
  rw [ReadsMembers, members?.eq_2 _ _ (fun same => noBrace same), isKey]
  constructor
  · rintro ⟨_, same⟩
    split at same
    · next key' value others fewer isKey' found =>
        cases isKey'
        split at same
        · next more after' less found' =>
            cases same
            exact ⟨value, .inl ⟨others, more, ⟨_, found⟩, ⟨_, found'⟩, rfl⟩⟩
        · cases same
    · next key' value after' fewer isKey' found =>
        cases isKey'
        cases same
        exact ⟨value, .inr ⟨⟨_, found⟩, rfl⟩⟩
    · cases same
  · rintro ⟨value, ⟨others, more, ⟨fewer, found⟩, ⟨less, found'⟩, rfl⟩ | ⟨⟨fewer, found⟩, rfl⟩⟩
    · refine ⟨by simp only [List.length_cons] at fewer ⊢; omega, ?_⟩
      simp only [found, found']
    · refine ⟨by simp only [List.length_cons] at fewer ⊢; omega, ?_⟩
      simp only [found]

/-- Tokens that are one literal, whatever follows them, exactly if a condition holds. -/
def IsRead (tokens : List Token) (valid : Prop) (literal : Literal) : Prop :=
  ∀ found after rest, Reads (tokens ++ after) found rest ↔ valid ∧ found = literal ∧ rest = after

/-- Tokens that are the members of an object, whatever follows them, exactly if a condition holds. -/
def AreRead (tokens : List Token) (valid : Prop) (members : List (List Nat × Literal)) : Prop :=
  ∀ found after rest, ReadsMembers (tokens ++ after) found rest ↔ valid ∧ found = members ∧ rest = after

section

variable {valid valid' : Prop} {token : Token} {key : List Nat}

theorem isRead_text (units : List Nat) : IsRead [.text units] True (.text units) := fun found after rest => by
  rw [List.singleton_append, reads_text_iff, true_and]

theorem areRead_close : AreRead [.mark '\x7d'] True [] := fun found after rest => by
  rw [List.singleton_append, readsMembers_close_iff, true_and]

theorem AreRead.object (read : AreRead tokens valid members) : IsRead (.mark '\x7b' :: tokens)
    (valid ∧ members.countP (·.1 == prototypeKey) ≤ 1) (.object members) := fun found after rest => by
  rw [List.cons_append, reads_object_iff]
  constructor
  · rintro ⟨members', isRead, once, rfl⟩
    obtain ⟨holds, rfl, rfl⟩ := (read members' after rest).1 isRead
    exact ⟨⟨holds, once⟩, rfl, rfl⟩
  · rintro ⟨⟨holds, once⟩, rfl, rfl⟩
    exact ⟨members, (read members _ _).2 ⟨holds, rfl, rfl⟩, once, rfl⟩

theorem IsRead.comma {others : List Token} (isKey : key? token = some key) (read : IsRead tokens valid literal)
    (more : AreRead others valid' members) : AreRead (token :: .mark ':' :: (tokens ++ .mark ',' :: others))
      (valid ∧ valid') ((key, literal) :: members) := fun found after rest => by
  have whole : token :: .mark ':' :: (tokens ++ .mark ',' :: others) ++ after =
      token :: .mark ':' :: (tokens ++ .mark ',' :: (others ++ after)) := by simp
  rw [whole, readsMembers_iff isKey]
  constructor
  · rintro ⟨value, ⟨behind, found', isRead, areRead, rfl⟩ | ⟨isRead, rfl⟩⟩
    · obtain ⟨holds, rfl, same⟩ := (read value _ _).1 isRead
      obtain rfl := (List.cons.inj same).2
      obtain ⟨holds', rfl, rfl⟩ := (more found' _ _).1 areRead
      exact ⟨⟨holds, holds'⟩, rfl, rfl⟩
    · obtain ⟨-, -, same⟩ := (read value _ _).1 isRead
      cases (List.cons.inj same).1
  · rintro ⟨⟨holds, holds'⟩, rfl, rfl⟩
    exact ⟨literal, .inl ⟨_, members, (read literal _ _).2 ⟨holds, rfl, rfl⟩,
      (more members _ _).2 ⟨holds', rfl, rfl⟩, rfl⟩⟩

theorem IsRead.last (isKey : key? token = some key) (read : IsRead tokens valid literal) :
    AreRead (token :: .mark ':' :: (tokens ++ [.mark '\x7d'])) valid [(key, literal)] := fun found after rest => by
  have whole : token :: .mark ':' :: (tokens ++ [.mark '\x7d']) ++ after =
      token :: .mark ':' :: (tokens ++ .mark '\x7d' :: after) := by simp
  rw [whole, readsMembers_iff isKey]
  constructor
  · rintro ⟨value, ⟨behind, found', isRead, -, -⟩ | ⟨isRead, rfl⟩⟩
    · obtain ⟨-, -, same⟩ := (read value _ _).1 isRead
      cases (List.cons.inj same).1
    · obtain ⟨holds, rfl, same⟩ := (read value _ _).1 isRead
      exact ⟨holds, rfl, (List.cons.inj same).2⟩
  · rintro ⟨holds, rfl, rfl⟩
    exact ⟨literal, .inr ⟨(read literal _ _).2 ⟨holds, rfl, rfl⟩, rfl⟩⟩

end

/-- The statement that declares a constant of a name and exports it, up to its value. -/
def opening (name : String) : List Token :=
  [.name "export".toList, .name "const".toList, .name name.toList, .mark '=']

/-- The end of a statement whose value is read only. -/
def closing : List Token := [.name "as".toList, .name "const".toList, .mark ';']

/-- The literal that the first statement of a source text exports under a name. -/
def exported? (name source : String) : Option Literal := do
  let tokens ← Token.read? source.toList
  let tokens ← tokens.dropPrefix? (opening name)
  let (literal, ⟨after, _⟩) ← read? tokens
  if closing.isPrefixOf after then some literal else none

/-- What is exported is the literal between the start of the statement and its end. -/
theorem exported?_eq_some_iff {name source : String} {valid : Prop} {found : Literal}
    (isRead : IsRead tokens valid literal)
    (isCut : Token.read? source.toList = some (opening name ++ (tokens ++ (closing ++ after)))) :
    exported? name source = some found ↔ valid ∧ found = literal := by
  have dropped : (opening name ++ (tokens ++ (closing ++ after))).dropPrefix? (opening name) =
      some (tokens ++ (closing ++ after)) := List.dropPrefix?_append_of_beq _ (beq_self_eq_true _)
  have closes : closing.isPrefixOf (closing ++ after) = true := List.isPrefixOf_iff_prefix.2 (List.prefix_append _ _)
  simp only [exported?, isCut, dropped, Option.bind_eq_bind, Option.bind_some]
  constructor
  · intro exports
    obtain ⟨⟨value, rest, fewer⟩, isValue, last⟩ := Option.bind_eq_some_iff.1 exports
    obtain ⟨holds, rfl, -⟩ := (isRead value _ rest).1 ⟨fewer, isValue⟩
    exact ⟨holds, (Option.some.inj (Option.ite_none_right_eq_some.1 last).2).symm⟩
  · rintro ⟨holds, rfl⟩
    obtain ⟨fewer, isValue⟩ := (isRead found (closing ++ after) _).2 ⟨holds, rfl, rfl⟩
    simp only [isValue, Option.bind_some, closes, if_true]

theorem exported?_eq_none {name source : String} (uncut : Token.read? source.toList = none) :
    exported? name source = none := by
  rw [exported?, uncut]
  rfl

/-! ## Properties -/

/-- The number that a key is as an index of an array. -/
def index? (key : List Nat) : Option Nat := Script.arrayIndex? (String.ofList (key.map Char.ofNat))

theorem arrayIndex?_eq_none {key : String} {c : Char} (inside : c ∈ key.toList) (noDigit : c.isDigit = false) :
    Script.arrayIndex? key = none := by
  rw [Script.arrayIndex?, if_neg]
  rintro ⟨written, -⟩
  rw [← written, Nat.toString_eq_repr, Nat.repr_eq_ofList_toDigits, String.toList_ofList] at inside
  rw [Nat.isDigit_of_mem_toDigits (by decide) (by decide) inside] at noDigit
  cases noDigit

/-- A unit of a character that takes two is no digit, and neither is the character. -/
theorem index?_textUnits (key : String) : index? (textUnits key.toList) = Script.arrayIndex? key := by
  -- Without characters of two units the units give the key back; with one of them neither text is an index.
  by_cases small : ∀ c ∈ key.toList, c.toNat < 0x10000
  · have back : (textUnits key.toList).map Char.ofNat = key.toList := by
      rw [textUnits, List.map_flatMap]
      refine (List.flatMap_congr fun c inside => ?_).trans (List.flatMap_singleton' key.toList)
      rw [charUnits, pointUnits, if_pos (small c inside), List.map_singleton, Char.ofNat_toNat]
    rw [index?, back, String.ofList_toList]
  · obtain ⟨c, inside, large⟩ : ∃ c ∈ key.toList, ¬ c.toNat < 0x10000 := by
      simpa only [not_forall, exists_prop] using small
    have half : Char.ofNat (0xd800 + (c.toNat - 0x10000) / 0x400) = '\x00' := by
      have bound : c.toNat < 0xd800 ∨ 0xdfff < c.toNat ∧ c.toNat < 0x110000 := c.valid
      rw [Char.ofNat, dif_neg]
      · rfl
      · simp only [Nat.isValidChar]
        omega
    have here : '\x00' ∈ (String.ofList ((textUnits key.toList).map Char.ofNat)).toList := by
      rw [String.toList_ofList, ← half]
      refine List.mem_map_of_mem (List.mem_flatMap.2 ⟨c, inside, ?_⟩)
      rw [charUnits, pointUnits, if_neg large]
      exact List.mem_cons_self
    have noDigit : c.isDigit = false := by
      rw [Char.isDigit, Bool.and_eq_false_iff, decide_eq_false_iff_not]
      exact .inr (by simp [UInt32.le_iff_toNat_le] at large ⊢; omega)
    rw [index?, arrayIndex?_eq_none here (by decide), arrayIndex?_eq_none inside noDigit]

section

variable {α : Type}

/-- Properties as they are gone through: indexes first, by size, and other keys as they were made. -/
def inOrder (properties : List (List Nat × α)) : List (List Nat × α) :=
  (properties.filter fun property => (index? property.1).isSome).mergeSort
      (fun a b => (index? a.1).getD 0 ≤ (index? b.1).getD 0) ++
    properties.filter fun property => (index? property.1).isNone

/-- The properties of the object that members make. -/
def own (members : List (List Nat × α)) : List (List Nat × α) :=
  inOrder (Grouped.set (members.filter fun member => member.1 ≠ prototypeKey))

/-- One key is gone through before another: an index before larger ones and before keys that are none. -/
def Precedes (a b : List Nat) : Prop := ∀ j, index? b = some j → ∃ i, index? a = some i ∧ i ≤ j

theorem perm_inOrder (properties : List (List Nat × α)) : (inOrder properties).Perm properties := by
  have indexed : (properties.filter fun property => (index? property.1).isNone) =
      properties.filter fun property => !(index? property.1).isSome := by
    refine List.filter_congr fun property _ => ?_
    cases index? property.1 <;> rfl
  rw [inOrder, indexed]
  exact ((List.mergeSort_perm _ _).append_right _).trans (List.filter_append_perm _ properties)

theorem pairwise_inOrder (properties : List (List Nat × α)) :
    (inOrder properties).Pairwise fun a b => Precedes a.1 b.1 := by
  have last {a b : List Nat × α} (inside : b ∈ properties.filter fun property => (index? property.1).isNone) :
      Precedes a.1 b.1 := by
    intro j isIndex
    have none := (List.mem_filter.1 inside).2
    rw [isIndex] at none
    cases none
  have sorted := @List.pairwise_mergeSort _ (fun a b : List Nat × α => (index? a.1).getD 0 ≤ (index? b.1).getD 0)
    (fun a b c first second => by simp only [decide_eq_true_eq] at *; omega)
    (fun a b => by simp only [Bool.or_eq_true, decide_eq_true_eq]; omega)
    (properties.filter fun property => (index? property.1).isSome)
  refine List.pairwise_append.2 ⟨sorted.imp_of_mem fun {a b} here _ first => ?_, ?_, fun a _ b inside => last inside⟩
  · obtain ⟨i, isIndex⟩ := Option.isSome_iff_exists.1 (List.mem_filter.1 ((List.mergeSort_perm _ _).mem_iff.1 here)).2
    intro j isIndex'
    refine ⟨i, isIndex, ?_⟩
    simpa [isIndex, isIndex'] using first
  · exact List.pairwise_iff_forall_sublist.2 fun {a b} part => last (part.subset (.tail _ (.head _)))

theorem inOrder_eq_self_iff {properties : List (List Nat × α)} :
    inOrder properties = properties ↔ properties.Pairwise fun a b => Precedes a.1 b.1 := by
  constructor
  · intro same
    rw [← same]
    exact pairwise_inOrder properties
  · intro ordered
    have sorted : (properties.filter fun property => (index? property.1).isSome).Pairwise fun a b =>
        decide ((index? a.1).getD 0 ≤ (index? b.1).getD 0) = true := by
      refine (ordered.filter _).imp_of_mem fun {a b} _ inside first => ?_
      obtain ⟨j, isIndex⟩ := Option.isSome_iff_exists.1 (List.mem_filter.1 inside).2
      obtain ⟨i, isIndex', least⟩ := first j isIndex
      simpa [isIndex, isIndex'] using least
    rw [inOrder, List.mergeSort_of_pairwise sorted]
    clear sorted
    induction properties with
    | nil => rfl
    | cons property rest ih =>
        obtain ⟨first, later⟩ := List.pairwise_cons.1 ordered
        cases isIndex : index? property.1 with
        | some i =>
            rw [List.filter_cons_of_pos (by simp [isIndex]), List.filter_cons_of_neg (by simp [isIndex]),
              List.cons_append, ih later]
        | none =>
            -- no index comes behind a key that is none
            have others : ∀ other ∈ rest, index? other.1 = none := by
              intro other inside
              cases isOther : index? other.1 with
              | none => rfl
              | some j =>
                  obtain ⟨i, isFirst, -⟩ := first other inside j isOther
                  rw [isIndex] at isFirst
                  cases isFirst
            rw [List.filter_eq_nil_iff.2, List.filter_eq_self.2, List.nil_append]
            · simpa [isIndex] using others
            · simpa [isIndex] using others

/-- Members are the properties of the object that they make exactly if each makes one, and they are in order. -/
theorem own_eq_self_iff {members : List (List Nat × α)} : own members = members ↔
    (members.map (·.1)).Nodup ∧ prototypeKey ∉ members.map (·.1) ∧ members.Pairwise fun a b => Precedes a.1 b.1 := by
  constructor
  · intro same
    have keys := (perm_inOrder (Grouped.set (members.filter fun member => member.1 ≠ prototypeKey))).map (·.1)
    rw [← own, same] at keys
    refine ⟨keys.nodup_iff.2 (Grouped.nodup_keys_set _), fun inside => ?_, ?_⟩
    · obtain ⟨member, listed, isKey⟩ := List.mem_map.1 (Grouped.mem_keys_set.1 (keys.mem_iff.1 inside))
      exact of_decide_eq_true (List.mem_filter.1 listed).2 isKey
    · rw [← same]
      exact pairwise_inOrder _
  · rintro ⟨distinct, noPrototype, ordered⟩
    have all : members.filter (fun member => member.1 ≠ prototypeKey) = members := by
      refine List.filter_eq_self.2 fun member inside => decide_eq_true fun isKey => ?_
      exact noPrototype (isKey ▸ List.mem_map_of_mem inside)
    rw [own, all, Grouped.set_eq_self distinct, inOrder_eq_self_iff.2 ordered]

/-- Whether names are those of the properties of the object that they name the members of, in the same order. -/
structure AreOwn (names : List String) : Prop where
  distinct : names.Nodup
  own : "__proto__" ∉ names
  ordered : names.Pairwise fun a b => ∀ j, Script.arrayIndex? b = some j → ∃ i, Script.arrayIndex? a = some i ∧ i ≤ j

theorem own_eq_self_iff_areOwn {members : List (List Nat × α)} {names : List String}
    (named : members.map (·.1) = names.map fun name => textUnits name.toList) :
    own members = members ↔ AreOwn names := by
  have injective : Function.Injective fun name : String => textUnits name.toList :=
    textUnits_injective.comp fun _ _ => String.toList_inj.1
  have prototype : prototypeKey ∈ names.map (fun name => textUnits name.toList) ↔ "__proto__" ∈ names :=
    List.mem_map_of_injective injective
  rw [own_eq_self_iff, ← List.pairwise_map, named, prototype, List.nodup_map_iff injective, List.pairwise_map]
  simp only [Precedes, index?_textUnits]
  exact ⟨fun ⟨distinct, own, ordered⟩ => ⟨distinct, own, ordered⟩, fun are => ⟨are.distinct, are.own, are.ordered⟩⟩

end

/-- What a literal makes: a text, or an object with its own properties. -/
inductive Result
  | text (units : List Nat)
  | object (properties : List (List Nat × Result))

mutual

def value : Literal → Result
  | .text units => .text units
  | .object members => .object (own (values members))

def values : List (List Nat × Literal) → List (List Nat × Result)
  | [] => []
  | (key, literal) :: rest => (key, literal.value) :: values rest

end

theorem values_eq_map (members : List (List Nat × Literal)) :
    values members = members.map fun member => (member.1, member.2.value) := by
  induction members with
  | nil => rw [values, List.map_nil]
  | cons member rest ih => rw [values, List.map_cons, ih]

end Literal

end QueryHooks.TypeScript
