import QueryHooks.Proofs.Text.Percent
import QueryHooks.Proofs.Text.Pieces
import QueryHooks.Request.Query

/-!
Query strings read back as form data. A query string tells just what its fields send, so fields that
send different pairs have different query strings.
-/

namespace QueryHooks.Request

open QueryHooks.Text (isAscii)
open QueryHooks.Text.Percent (bytes encodeByte hexDigit)

namespace FormData

def spaced (chars : List Char) : List Char := chars.map fun c => if c = '+' then ' ' else c

def textOf (chars : List Char) : String := String.ofList (Text.Percent.decode (spaced chars))

def pairOf (piece : List Char) : String × String :=
  let (name, text) := Text.cutAt '=' piece
  (textOf name, textOf (text.getD []))

def withoutMark : List Char → List Char
  | '?' :: rest => rest
  | chars => chars

/-- The pairs of a query string: it is cut at ampersands, and what is not empty at its first equals sign. -/
def pairs (query : String) : List (String × String) :=
  ((Text.splitOn '&' (withoutMark query.toList)).filter (· ≠ [])).map pairOf

end FormData

/-- Which pairs fields stand for, one for each item of a list and one for any other value but null. -/
inductive Sends : Fields → List (String × String) → Prop
  | nothing : Sends [] []
  | null {name rest pairs} : Sends rest pairs → Sends ((name, .null) :: rest) pairs
  | list {name items rest pairs} : Sends rest pairs →
      Sends ((name, .list items) :: rest) (items.map (fun item => (name, spell item)) ++ pairs)
  | pair {name first second rest pairs} : Sends rest pairs →
      Sends ((name, .pair first second) :: rest) ((name, spell first) :: (name, spell second) :: pairs)
  | one {name v rest pairs} : v ≠ .null → (∀ items, v ≠ .list items) →
      (∀ first second, v ≠ .pair first second) → Sends rest pairs →
      Sends ((name, v) :: rest) ((name, spell v) :: pairs)

/-- Whether all that fields send has a text, and no text holds half a surrogate pair. -/
def IsWritable (fields : Fields) : Prop :=
  ∀ entry ∈ fields.entries, isSpellable maxNesting entry.2 = true ∧
    ∀ c ∈ entry.1.toList ++ (spell entry.2).toList, Text.Half.isHalf c = false

/-- What a byte of a text becomes in form data. -/
def formByte (byte : UInt8) : List Char :=
  ((Text.Percent.quoteByte [' ', '*'] byte).map fun c => if c == ' ' then '+' else c).flatMap
    fun c => if c == '~' then ['%', '7', 'E'] else [c]

theorem formEncode_eq (text : String) :
    formEncode text = (Text.Utf8.encode text.toList).flatMap formByte := by
  rw [formEncode, Text.Percent.quotePlus, Text.Percent.quote, List.map_flatMap, List.flatMap_assoc]
  rfl

/-- A character that form data keeps, or the plus of a space. -/
def IsKept (byte : UInt8) (c : Char) : Prop :=
  isAscii c = true ∧ c ∉ ['%', '&', '='] ∧ (if c = '+' then ' ' else c).toNat.toUInt8 = byte

instance (byte : UInt8) (c : Char) : Decidable (IsKept byte c) :=
  inferInstanceAs (Decidable (_ ∧ _))

theorem formByte_cases (byte : UInt8) :
    (∃ c, formByte byte = [c] ∧ IsKept byte c) ∨ formByte byte = encodeByte byte := by
  have known : ∀ n < 256,
      ((formByte (UInt8.ofNat n)).length = 1 ∧ ∀ c ∈ formByte (UInt8.ofNat n), IsKept (UInt8.ofNat n) c) ∨
        formByte (UInt8.ofNat n) = encodeByte (UInt8.ofNat n) := by
    decide +kernel
  have here := known byte.toNat byte.toNat_lt
  rw [UInt8.ofNat_toNat] at here
  rcases here with ⟨single, kept⟩ | quoted
  · obtain ⟨c, alone⟩ := List.length_eq_one_iff.1 single
    exact .inl ⟨c, alone, kept c (alone ▸ List.mem_singleton_self c)⟩
  · exact .inr quoted

theorem hexDigit_plain {value : Nat} (small : value < 16) :
    isAscii (hexDigit value) = true ∧ hexDigit value ∉ ['+', '&', '='] := by
  revert value
  decide

theorem encodeByte_plain {byte : UInt8} {c : Char} (inside : c ∈ encodeByte byte) :
    isAscii c = true ∧ c ∉ ['+', '&', '='] := by
  have bound : byte.toNat < 256 := byte.toNat_lt
  simp only [encodeByte, List.mem_cons, List.not_mem_nil, or_false] at inside
  rcases inside with rfl | rfl | rfl
  · decide
  · exact hexDigit_plain (by omega)
  · exact hexDigit_plain (by omega)

theorem formEncode_plain {text : String} {c : Char} (inside : c ∈ formEncode text) :
    isAscii c = true ∧ c ∉ ['&', '='] := by
  rw [formEncode_eq] at inside
  obtain ⟨byte, -, within⟩ := List.mem_flatMap.1 inside
  rcases formByte_cases byte with ⟨kept, single, ascii, plain, -⟩ | quoted
  · rw [single, List.mem_singleton] at within
    subst within
    exact ⟨ascii, fun separator => plain (List.mem_cons_of_mem _ separator)⟩
  · rw [quoted] at within
    obtain ⟨ascii, plain⟩ := encodeByte_plain within
    exact ⟨ascii, fun separator => plain (List.mem_cons_of_mem _ separator)⟩

namespace FormData

theorem spaced_encodeByte (byte : UInt8) : spaced (encodeByte byte) = encodeByte byte := by
  refine (List.map_congr_left fun c inside => ?_).trans (List.map_id _)
  have noPlus : c ≠ '+' := fun same => (encodeByte_plain inside).2 (same ▸ List.mem_cons_self)
  exact if_neg noPlus

theorem bytes_spaced (octets : List UInt8) : bytes (spaced (octets.flatMap formByte)) = octets := by
  induction octets with
  | nil => simp [spaced, bytes]
  | cons byte rest ih =>
      rw [spaced] at ih
      rw [List.flatMap_cons, spaced, List.map_append]
      rcases formByte_cases byte with ⟨c, single, -, plain, value⟩ | quoted
      · have noMark : (if c = '+' then ' ' else c) ≠ '%' := by
          split
          · decide
          · exact fun same => plain (same ▸ List.mem_cons_self)
        rw [single, List.map_singleton, List.singleton_append, Text.Percent.bytes_cons noMark, value, ih]
      · have same : (encodeByte byte).map (fun c => if c = '+' then ' ' else c) = encodeByte byte :=
          spaced_encodeByte byte
        rw [quoted, same, Text.Percent.bytes_encodeByte, ih]

theorem textOf_formEncode (text : String) : textOf (formEncode text) = text := by
  have ascii : ∀ c ∈ spaced (formEncode text), isAscii c = true := by
    intro c inside
    obtain ⟨d, within, rfl⟩ := List.mem_map.1 inside
    split
    · decide
    · exact (formEncode_plain within).1
  rw [textOf, Text.Percent.decode_ascii ascii, formEncode_eq, bytes_spaced, Text.Utf8.decodeLossy_encode,
    String.ofList_toList]

theorem pairOf_formPair (name text : String) : pairOf (formPair name text) = (name, text) := by
  have free : '=' ∉ formEncode name := fun inside => (formEncode_plain inside).2 (by decide)
  rw [pairOf, formPair, Text.cutAt_append free]
  simp only [Option.getD_some, textOf_formEncode]

theorem formPair_free (name text : String) : '&' ∉ formPair name text := by
  intro inside
  rcases List.mem_append.1 inside with first | second
  · exact (formEncode_plain first).2 (by decide)
  · rcases List.mem_cons.1 second with equals | later
    · exact absurd equals (by decide)
    · exact (formEncode_plain later).2 (by decide)

theorem formPair_ne_nil (name text : String) : formPair name text ≠ [] :=
  List.append_ne_nil_of_right_ne_nil _ (List.cons_ne_nil _ _)

/-- Form data behind a question mark, if there is any. -/
def marked (chars : List Char) : List Char := if chars.isEmpty then [] else '?' :: chars

/-- The query string that pairs are written as. -/
def write (pairs : List (String × String)) : String :=
  String.ofList (marked (['&'].intercalate (pairs.map fun (name, text) => formPair name text)))

theorem write_of_ne_nil {written : List (String × String)} (some : written ≠ []) :
    write written =
      String.ofList ('?' :: ['&'].intercalate (written.map fun (name, text) => formPair name text)) := by
  obtain ⟨pair, rest, rfl⟩ := List.exists_cons_of_ne_nil some
  have filled : ['&'].intercalate ((pair :: rest).map fun (name, text) => formPair name text) ≠ [] := by
    cases rest with
    | nil => simpa using formPair_ne_nil pair.1 pair.2
    | cons second others => simp [List.intercalate_cons_cons]
  rw [write, marked, if_neg (by simpa using filled)]

theorem write_eq_empty_iff {written : List (String × String)} : write written = "" ↔ written = [] := by
  refine ⟨fun empty => ?_, fun none => none ▸ rfl⟩
  by_contra some
  rw [write_of_ne_nil some] at empty
  have chars := congrArg String.toList empty
  rw [String.toList_ofList] at chars
  cases chars

/-- What is written as form data is read back from it. -/
theorem pairs_write (written : List (String × String)) : pairs (write written) = written := by
  by_cases none : written = []
  · subst none
    decide
  have pieces : Text.splitOn '&' (['&'].intercalate (written.map fun (name, text) => formPair name text)) =
      written.map fun (name, text) => formPair name text := by
    refine Text.splitOn_intercalate (by simpa using none) fun piece inside => ?_
    obtain ⟨pair, -, rfl⟩ := List.mem_map.1 inside
    exact formPair_free pair.1 pair.2
  have kept : (written.map fun (name, text) => formPair name text).filter (· ≠ []) =
      written.map fun (name, text) => formPair name text := by
    refine List.filter_eq_self.2 fun piece inside => ?_
    obtain ⟨pair, -, rfl⟩ := List.mem_map.1 inside
    exact decide_eq_true (formPair_ne_nil pair.1 pair.2)
  rw [pairs, write_of_ne_nil none, String.toList_ofList, withoutMark, pieces, kept, List.map_map]
  refine (List.map_congr_left fun pair _ => ?_).trans (List.map_id written)
  exact pairOf_formPair pair.1 pair.2

end FormData

def written (entries : List (String × Value)) : List (String × String) :=
  entries.map fun (name, v) => (name, spell v)

theorem written_sent_cons (name : String) (v : Value) (rest : Fields) :
    written (Fields.entries ((name, v) :: rest)) =
      (Fields.sent v).map (fun item => (name, spell item)) ++ written (Fields.entries rest) := by
  simp only [written, Fields.entries, List.flatMap_cons, List.map_append, List.map_map, Function.comp_def]

theorem sends_iff {fields : Fields} {pairs : List (String × String)} :
    Sends fields pairs ↔ pairs = written fields.entries := by
  constructor
  · intro sends
    induction sends with
    | nothing => rfl
    | null _ ih => rw [written_sent_cons, ← ih]; rfl
    | list _ ih => rw [written_sent_cons, ← ih]; rfl
    | pair _ ih => rw [written_sent_cons, ← ih]; rfl
    | @one name v rest pairs noNull noList noPair _ ih =>
        have alone : Fields.sent v = [v] := by
          unfold Fields.sent
          split
          · exact absurd rfl noNull
          · exact absurd rfl (noList _)
          · exact absurd rfl (noPair _ _)
          · rfl
        rw [written_sent_cons, ← ih, alone]
        rfl
  · rintro rfl
    induction fields with
    | nil => exact .nothing
    | cons field rest ih =>
        obtain ⟨name, v⟩ := field
        rw [written_sent_cons]
        cases v with
        | null => exact .null ih
        | list items => exact .list ih
        | pair first second => exact .pair ih
        | _ => exact .one (by simp) (by simp) (by simp) ih

theorem isSendable_iff (entry : String × Value) :
    isSendable entry = true ↔ isSpellable maxNesting entry.2 = true ∧
      ∀ c ∈ entry.1.toList ++ (spell entry.2).toList, Text.Half.isHalf c = false := by
  have whole (chars : List Char) :
      Text.Half.areWhole chars = true ↔ ∀ c ∈ chars, Text.Half.isHalf c = false := by
    simp [Text.Half.areWhole]
  rw [isSendable, Bool.and_eq_true, Bool.and_eq_true, whole, whole, List.forall_mem_append]
  exact ⟨fun ⟨⟨name, spellable⟩, text⟩ => ⟨spellable, name, text⟩,
    fun ⟨spellable, name, text⟩ => ⟨⟨name, spellable⟩, text⟩⟩

theorem all_isSendable_iff (fields : Fields) : fields.entries.all isSendable = true ↔ IsWritable fields := by
  rw [List.all_eq_true, IsWritable]
  exact forall₂_congr fun entry _ => isSendable_iff entry

theorem queryString_of_not_writable {fields : Fields} (unwritable : ¬ IsWritable fields) :
    queryString fields = .error .unexpected := by
  rw [queryString]
  split
  · next none => exact absurd (fun entry inside => by rw [none] at inside; cases inside) unwritable
  · rw [if_neg fun sendable => unwritable ((all_isSendable_iff fields).1 sendable)]

theorem queryString_of_writable {fields : Fields} (writable : IsWritable fields) :
    queryString fields = .ok (FormData.write (written fields.entries)) := by
  rw [queryString]
  split
  · next none => rw [none]; rfl
  · next entries some =>
      have filled : written fields.entries ≠ [] := by simpa [written] using some
      rw [if_pos ((all_isSendable_iff fields).2 writable), FormData.write_of_ne_nil filled, written, List.map_map]
      rfl

/-- The query string of fields beside the pairs that they stand for. -/
structure RoundTrips (fields : Fields) : Prop where
  writes : (∃ text, queryString fields = .ok text) ↔ IsWritable fields
  fails : ¬ IsWritable fields → queryString fields = .error .unexpected
  reads : ∀ text, queryString fields = .ok text → ∀ pairs, Sends fields pairs ↔ FormData.pairs text = pairs
  empty : ∀ text, queryString fields = .ok text → (text = "" ↔ Sends fields [])
  distinct : ∀ text others pairs otherPairs, Sends fields pairs → Sends others otherPairs →
    pairs ≠ otherPairs → queryString fields = .ok text → queryString others ≠ .ok text

theorem writable_of_ok {fields : Fields} {text : String} (given : queryString fields = .ok text) :
    IsWritable fields := by
  by_contra unwritable
  rw [queryString_of_not_writable unwritable] at given
  cases given

theorem eq_write_of_ok {fields : Fields} {text : String} (given : queryString fields = .ok text) :
    text = FormData.write (written fields.entries) := by
  rw [queryString_of_writable (writable_of_ok given)] at given
  exact (Except.ok.inj given).symm

/-- A query string, where there is one, is read back as the pairs that its fields send, in their order. -/
theorem queryString_roundTrips (fields : Fields) : RoundTrips fields where
  writes := by
    exact ⟨fun ⟨text, given⟩ => writable_of_ok given, fun writable => ⟨_, queryString_of_writable writable⟩⟩
  fails := queryString_of_not_writable
  reads := by
    intro text given pairs
    rw [sends_iff, eq_write_of_ok given, FormData.pairs_write, eq_comm]
  empty := by
    intro text given
    rw [eq_write_of_ok given, FormData.write_eq_empty_iff, sends_iff, eq_comm]
  distinct := by
    intro text others pairs otherPairs sends otherSends different given otherGiven
    apply different
    rw [sends_iff.1 sends, sends_iff.1 otherSends, ← FormData.pairs_write (written fields.entries),
      ← eq_write_of_ok given, eq_write_of_ok otherGiven, FormData.pairs_write]

def nestedLists : Nat → Value
  | 0 => .null
  | n + 1 => .list [nestedLists n]

theorem isSpellable_nestedLists (n levels : Nat) : isSpellable levels (nestedLists n) = decide (n ≤ levels) := by
  induction n generalizing levels with
  | zero => simp [nestedLists, isSpellable, Value.hasLongInteger]
  | succ n ih =>
      rw [nestedLists, isSpellable, areSpellable, areSpellable, ih, Bool.and_true, ← Bool.decide_and]
      congr 1
      exact propext (by omega)

/-- Whether a value sends one pair under a name, and yet has no query string. -/
def IsRefused (v : Value) : Prop :=
  (∃ pair, Sends [("q", v)] [pair]) ∧ queryString [("q", v)] = .error .unexpected

theorem isRefused_of_sent {v item : Value} (alone : Fields.sent v = [item])
    (fails : isSpellable maxNesting item = false ∨ ∃ c ∈ (spell item).toList, Text.Half.isHalf c = true) :
    IsRefused v := by
  have entries : Fields.entries [("q", v)] = [("q", item)] := by
    simp only [Fields.entries, List.flatMap_singleton, alone, List.map_singleton]
  refine ⟨⟨("q", spell item), sends_iff.2 (by rw [entries]; rfl)⟩, queryString_of_not_writable fun writable => ?_⟩
  obtain ⟨spellable, whole⟩ := writable ("q", item) (entries ▸ List.mem_singleton_self _)
  rcases fails with long | ⟨c, inside, half⟩
  · rw [long] at spellable
    cases spellable
  · rw [whole c (List.mem_append_right _ inside)] at half
    cases half

/-- Half a surrogate pair, lists that lie too deep and an integer that is too long cannot be sent. -/
theorem exists_not_written :
    IsRefused (.text (String.singleton (Text.Half.ofUnit 0xD800))) ∧
      IsRefused (.list [nestedLists (maxNesting + 1)]) ∧ IsRefused (.int Value.unwritable) := by
  refine ⟨isRefused_of_sent rfl (.inr ⟨Text.Half.ofUnit 0xD800, ?_, by decide⟩), isRefused_of_sent rfl (.inl ?_),
    isRefused_of_sent rfl (.inl ?_)⟩
  · simp [spell, Value.display]
  · rw [isSpellable_nestedLists]
    exact decide_eq_false (Nat.not_succ_le_self maxNesting)
  · simp only [isSpellable, Value.hasLongInteger, Int.natAbs_natCast, Nat.le_refl, decide_true, Bool.not_true]

end QueryHooks.Request
