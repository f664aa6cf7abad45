import QueryHooks.Proofs.Grouped
import QueryHooks.Proofs.Request.FormData

/-!
Pairs that are given as texts, a name and a value with an equals sign between. What they make is sent as
the same pairs, brought together by name.
-/

namespace QueryHooks.Request

variable {option text : String} {texts : List String} {pair : String × String} {pairs : List (String × String)}

/-- Whether a text is a name, the equals sign that first stands in it, and a value. -/
def Separates (text : String) (pair : String × String) : Prop :=
  pair.1 ≠ "" ∧ '=' ∉ pair.1.toList ∧ text = pair.1 ++ "=" ++ pair.2

/-- Whether a text has no equals sign, or no name before its first. -/
def IsNoPair (text : String) : Prop := '=' ∉ text.toList ∨ text.toList.head? = some '='

/-- Whether no character of a text is half a surrogate pair. -/
def IsWhole (text : String) : Prop := ∀ c ∈ text.toList, Text.Half.isHalf c = false

/-- Pairs brought together by name: names in the order in which they first come, and the values of each in theirs. -/
def regroup (pairs : List (String × String)) : List (String × String) :=
  (pairs.map (·.1)).eraseDups.flatMap fun name => pairs.filter (·.1 == name)

/-! ## Reading one pair -/

theorem toList_pair (name value : String) : (name ++ "=" ++ value).toList = name.toList ++ '=' :: value.toList := by
  rw [String.toList_append, String.toList_append, List.append_assoc]
  rfl

theorem readPair?_of_separates (separates : Separates text pair) : readPair? text = some pair := by
  obtain ⟨named, free, rfl⟩ := separates
  have some : pair.1.toList ≠ [] := fun none => named (String.toList_inj.1 none)
  obtain ⟨c, rest, whole⟩ := List.exists_cons_of_ne_nil some
  rw [readPair?, toList_pair, Text.cutAt_append free, whole]
  simp only [← whole, String.ofList_toList]

theorem readPair?_of_isNoPair (unpaired : IsNoPair text) : readPair? text = none := by
  rcases unpaired with free | unnamed
  · rw [readPair?, Text.cutAt_of_not_mem free]
    cases text.toList <;> rfl
  · obtain ⟨rest, whole⟩ := List.head?_eq_some_iff.1 unnamed
    rw [readPair?, whole]
    rfl

theorem exists_separates (paired : ¬ IsNoPair text) : ∃ pair, Separates text pair := by
  obtain ⟨inside, named⟩ := not_or.1 paired
  obtain ⟨name, value, whole, free⟩ := List.eq_append_cons_of_mem (not_not.1 inside)
  refine ⟨(String.ofList name, String.ofList value), fun none => ?_, by rwa [String.toList_ofList], ?_⟩
  · have empty : name = [] := by simpa using congrArg String.toList none
    exact named (by rw [whole, empty]; rfl)
  · apply String.toList_inj.1
    rw [toList_pair, whole, String.toList_ofList, String.toList_ofList]

theorem isWhole_of_separates (separates : Separates text pair) :
    IsWhole text ↔ ∀ c ∈ pair.1.toList ++ pair.2.toList, Text.Half.isHalf c = false := by
  obtain ⟨-, -, rfl⟩ := separates
  have equals : Text.Half.isHalf '=' = false := by decide
  rw [IsWhole, toList_pair, List.forall_mem_append, List.forall_mem_append, List.forall_mem_cons, equals]
  exact ⟨fun ⟨name, _, value⟩ => ⟨name, value⟩, fun ⟨name, value⟩ => ⟨name, rfl, value⟩⟩

/-! ## Fields from pairs -/

/-- The value of a field from the texts under its name: the text if there is one alone, and else a list. -/
def collected : List String → Value
  | [text] => .text text
  | texts => .list (texts.map .text)

/-- The fields that pairs make. -/
def fieldsOf (pairs : List (String × String)) : Fields :=
  (Grouped.of (·.1) pairs).map fun group => (group.1, collected (group.2.map (·.2)))

theorem addPair_eq_put (pair : String × String) (fields : Fields) :
    addPair pair fields = Grouped.put pair.1 (.text pair.2) (collect · pair.2) fields := by
  induction fields with
  | nil => rfl
  | cons field rest ih => rw [addPair, Grouped.put, ih]

theorem collect_collected {texts : List String} (some : texts ≠ []) (text : String) :
    collect (collected texts) text = collected (texts ++ [text]) := by
  match texts with
  | [] => exact absurd rfl some
  | [_] => rfl
  | first :: second :: rest =>
      have further : (first :: second :: rest).map Value.text ++ [.text text] =
          (first :: second :: rest ++ [text]).map .text := by rw [List.map_append, List.map_singleton]
      exact congrArg Value.list further

/-- One more pair gives its field one more text, or makes a new field. -/
theorem addPair_fieldsOf (pair : String × String) (pairs : List (String × String)) :
    addPair pair (fieldsOf pairs) = fieldsOf (pairs ++ [pair]) := by
  rw [addPair_eq_put]
  refine Grouped.put_of (·.1) (fun group => collected (group.map (·.2))) (collect · pair.2) pair
    (fun group some => ?_) pairs
  rw [collect_collected (by simpa using some), List.map_append, List.map_singleton]

/-- Texts that are pairs add these to the fields of what came before. -/
theorem fieldsAfter_of_separates (separate : List.Forall₂ Separates texts pairs) (before : List (String × String)) :
    fieldsAfter option (fieldsOf before) texts = .ok (fieldsOf (before ++ pairs)) := by
  induction separate generalizing before with
  | nil => rw [fieldsAfter, List.append_nil]
  | @cons text pair texts pairs separates _ ih =>
      rw [fieldsAfter, readPair?_of_separates separates]
      change fieldsAfter option (addPair pair (fieldsOf before)) texts = _
      rw [addPair_fieldsOf, ih, List.append_assoc, List.singleton_append]

theorem fieldsOfPairs_of_separates (separate : List.Forall₂ Separates texts pairs) :
    fieldsOfPairs option texts = .ok (fieldsOf pairs) :=
  fieldsAfter_of_separates separate []

/-- The first text that is no pair ends the reading. -/
theorem fieldsAfter_of_isNoPair {before after : List String} (paired : ∀ t ∈ before, ¬ IsNoPair t)
    (unpaired : IsNoPair text) (fields : Fields) :
    fieldsAfter option fields (before ++ text :: after) = .error (.usage (.notPair option text)) := by
  induction before generalizing fields with
  | nil => rw [List.nil_append, fieldsAfter, readPair?_of_isNoPair unpaired]
  | cons first rest ih =>
      obtain ⟨separable, others⟩ := List.forall_mem_cons.1 paired
      obtain ⟨pair, separates⟩ := exists_separates separable
      rw [List.cons_append, fieldsAfter, readPair?_of_separates separates]
      exact ih others _

theorem exists_pairs (paired : ∀ text ∈ texts, ¬ IsNoPair text) : ∃ pairs, List.Forall₂ Separates texts pairs := by
  induction texts with
  | nil => exact ⟨[], .nil⟩
  | cons text rest ih =>
      obtain ⟨separable, others⟩ := List.forall_mem_cons.1 paired
      obtain ⟨pair, separates⟩ := exists_separates separable
      obtain ⟨pairs, separate⟩ := ih others
      exact ⟨pair :: pairs, .cons separates separate⟩

/-! ## What the fields send -/

theorem perm_regroup (pairs : List (String × String)) : (regroup pairs).Perm pairs := by
  have whole := Grouped.perm_of (·.1) pairs
  rw [Grouped.of, List.flatMap_map] at whole
  exact whole

theorem sent_collected (texts : List String) : Fields.sent (collected texts) = texts.map .text := by
  match texts with
  | [] => rfl
  | [_] => rfl
  | _ :: _ :: _ => rfl

/-- The fields of pairs send the texts of these under their names, brought together by name. -/
theorem entries_fieldsOf (pairs : List (String × String)) :
    (fieldsOf pairs).entries = (regroup pairs).map fun pair => (pair.1, .text pair.2) := by
  rw [Fields.entries, fieldsOf, Grouped.of, List.map_map, List.flatMap_map, regroup, List.map_flatMap]
  refine List.flatMap_congr fun name _ => ?_
  simp only [Function.comp_apply, sent_collected, List.map_map]
  refine List.map_congr_left fun pair inside => ?_
  have named : pair.1 = name := beq_iff_eq.1 (List.mem_filter.1 inside).2
  rw [Function.comp_apply, Function.comp_apply, named]

theorem written_fieldsOf (pairs : List (String × String)) : written (fieldsOf pairs).entries = regroup pairs := by
  rw [written, entries_fieldsOf, List.map_map]
  refine (List.map_congr_left fun pair _ => ?_).trans (List.map_id _)
  exact congrArg (Prod.mk pair.1) (spell_text pair.2)

theorem isWritable_fieldsOf_iff (pairs : List (String × String)) :
    IsWritable (fieldsOf pairs) ↔
      ∀ pair ∈ pairs, ∀ c ∈ pair.1.toList ++ pair.2.toList, Text.Half.isHalf c = false := by
  have spellable (text : String) : isSpellable maxNesting (.text text) = true := by
    simp [isSpellable, Value.hasLongInteger]
  rw [IsWritable, entries_fieldsOf, List.forall_mem_map]
  simp only [spellable, spell_text, true_and]
  exact ⟨fun all pair inside => all pair ((perm_regroup pairs).mem_iff.2 inside),
    fun all pair inside => all pair ((perm_regroup pairs).mem_iff.1 inside)⟩

/-- What pairs send can be written exactly if the texts that they are read from are in whole characters. -/
theorem isWritable_iff_of_separates (separate : List.Forall₂ Separates texts pairs) :
    IsWritable (fieldsOf pairs) ↔ ∀ text ∈ texts, IsWhole text := by
  rw [isWritable_fieldsOf_iff]
  induction separate with
  | nil => exact iff_of_true (List.forall_mem_nil _) (List.forall_mem_nil _)
  | cons separates _ ih => rw [List.forall_mem_cons, List.forall_mem_cons, isWhole_of_separates separates, ih]

/-- What becomes of texts that are given as pairs, from the fields that they make to the form data that these send. -/
structure Survives (option : String) (texts : List String) : Prop where
  refuses : (∃ failure, fieldsOfPairs option texts = .error failure) ↔ ∃ text ∈ texts, IsNoPair text
  blames : ∀ before text after, texts = before ++ text :: after → (∀ t ∈ before, ¬ IsNoPair t) → IsNoPair text →
    fieldsOfPairs option texts = .error (.usage (.notPair option text))
  sends : (∀ text ∈ texts, ¬ IsNoPair text) → ∃ pairs fields, List.Forall₂ Separates texts pairs ∧
    fieldsOfPairs option texts = .ok fields ∧
    ((∃ query, queryString fields = .ok query) ↔ ∀ text ∈ texts, IsWhole text) ∧
    (∀ query, queryString fields = .ok query → FormData.pairs query = regroup pairs) ∧ (regroup pairs).Perm pairs

theorem exists_first_of_isNoPair (unpaired : ∃ text ∈ texts, IsNoPair text) :
    ∃ before text after, texts = before ++ text :: after ∧ (∀ t ∈ before, ¬ IsNoPair t) ∧ IsNoPair text := by
  induction texts with
  | nil =>
      obtain ⟨_, inside, _⟩ := unpaired
      cases inside
  | cons first rest ih =>
      by_cases here : IsNoPair first
      · exact ⟨[], first, rest, rfl, List.forall_mem_nil _, here⟩
      · have later : ∃ text ∈ rest, IsNoPair text := by
          obtain ⟨text, inside, isNone⟩ := unpaired
          refine ⟨text, (List.mem_cons.1 inside).resolve_left ?_, isNone⟩
          rintro rfl
          exact here isNone
        obtain ⟨before, text, after, rfl, paired, isNone⟩ := ih later
        exact ⟨first :: before, text, after, rfl, List.forall_mem_cons.2 ⟨here, paired⟩, isNone⟩

/--
Texts make fields unless one of them is no pair, and the first such is what the failure names. Otherwise the form data
of the fields, which there is if the texts are in whole characters, is read back as the pairs, brought together by name.
-/
theorem pairs_survive (option : String) (texts : List String) : Survives option texts where
  refuses := by
    constructor
    · rintro ⟨failure, failed⟩
      by_contra none
      have paired : ∀ text ∈ texts, ¬ IsNoPair text := fun text inside isNone => none ⟨text, inside, isNone⟩
      obtain ⟨pairs, separate⟩ := exists_pairs paired
      rw [fieldsOfPairs_of_separates separate] at failed
      cases failed
    · intro unpaired
      obtain ⟨before, text, after, rfl, paired, isNone⟩ := exists_first_of_isNoPair unpaired
      exact ⟨_, fieldsAfter_of_isNoPair paired isNone []⟩
  blames := by
    rintro before text after rfl paired isNone
    exact fieldsAfter_of_isNoPair paired isNone []
  sends := by
    intro paired
    obtain ⟨pairs, separate⟩ := exists_pairs paired
    refine ⟨pairs, fieldsOf pairs, separate, fieldsOfPairs_of_separates separate, ?_, ?_, perm_regroup pairs⟩
    · rw [← isWritable_iff_of_separates separate]
      exact ⟨fun ⟨query, given⟩ => writable_of_ok given, fun writable => ⟨_, queryString_of_writable writable⟩⟩
    · intro query given
      rw [eq_write_of_ok given, FormData.pairs_write, written_fieldsOf]

/-- A value that is half a surrogate pair. -/
def halfValue : String := String.singleton (Text.Half.ofUnit 0xDC80)

/-- Half a surrogate pair is taken for a value, and then cannot be sent. -/
theorem exists_pair_not_sent :
    Separates ("q=" ++ halfValue) ("q", halfValue) ∧
      fieldsOfPairs "--query" ["q=" ++ halfValue] = .ok [("q", .text halfValue)] ∧
      queryString [("q", .text halfValue)] = .error .unexpected := by
  have separates : Separates ("q=" ++ halfValue) ("q", halfValue) := ⟨by decide, by decide, rfl⟩
  refine ⟨separates, fieldsOfPairs_of_separates (.cons separates .nil), queryString_of_not_writable fun writable => ?_⟩
  obtain ⟨-, whole⟩ := writable ("q", .text halfValue) List.mem_cons_self
  have broken : Text.Half.isHalf (Text.Half.ofUnit 0xDC80) = true := by decide
  rw [whole _ (List.mem_append_right _ (by simp [spell_text, halfValue]))] at broken
  cases broken

end QueryHooks.Request
