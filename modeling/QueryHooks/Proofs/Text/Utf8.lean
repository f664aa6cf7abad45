import QueryHooks.Text.Class
import QueryHooks.Text.Utf8

/-! Texts are read back from their bytes: what a character is encoded to decodes to it and to nothing more. -/

namespace QueryHooks.Text.Utf8

private theorem isContinuation_iff (byte : UInt8) :
    isContinuation byte = true ↔ 0x80 ≤ byte.toNat ∧ byte.toNat < 0xC0 := by
  simp only [isContinuation, Bool.and_eq_true, decide_eq_true_eq, UInt8.le_iff_toNat_le, UInt8.reduceToNat]
  omega

private theorem admitsSecond_iff (lead second : UInt8) :
    admitsSecond lead second = true ↔ (0x80 ≤ second.toNat ∧ second.toNat < 0xC0) ∧
      (lead.toNat = 0xE0 → 0xA0 ≤ second.toNat) ∧ (lead.toNat = 0xED → second.toNat < 0xA0) ∧
      (lead.toNat = 0xF0 → 0x90 ≤ second.toNat) ∧ (lead.toNat = 0xF4 → second.toNat < 0x90) := by
  simp only [admitsSecond, Bool.and_eq_true, isContinuation_iff, Bool.or_eq_true, bne_iff_ne, ne_eq,
    decide_eq_true_eq, ← UInt8.toNat_inj, UInt8.le_iff_toNat_le, UInt8.lt_iff_toNat_lt, UInt8.reduceToNat]
  omega

section

variable {lead second third fourth : UInt8} {rest : List UInt8}

private theorem decodeOne_two (start : 0xC2 ≤ lead.toNat ∧ lead.toNat < 0xE0)
    (next : 0x80 ≤ second.toNat ∧ second.toNat < 0xC0) :
    decodeOne lead (second :: rest) =
      .ok (Char.ofNat ((lead.toNat - 0xC0) * 64 + (second.toNat - 0x80)), rest) := by
  have range : ¬ lead < 0x80 ∧ ¬ lead < 0xC2 ∧ ¬ 0xF4 < lead ∧ lead < 0xE0 := by
    simp only [UInt8.lt_iff_toNat_lt, UInt8.reduceToNat]
    omega
  have admitted : admitsSecond lead second = true := (admitsSecond_iff lead second).2 (by omega)
  simp [decodeOne, range, admitted, join]

private theorem decodeOne_three (start : 0xE0 ≤ lead.toNat ∧ lead.toNat < 0xF0)
    (next : 0x80 ≤ second.toNat ∧ second.toNat < 0xC0) (last : 0x80 ≤ third.toNat ∧ third.toNat < 0xC0)
    (long : lead.toNat = 0xE0 → 0xA0 ≤ second.toNat) (noHalf : lead.toNat = 0xED → second.toNat < 0xA0) :
    decodeOne lead (second :: third :: rest) =
      .ok (Char.ofNat (((lead.toNat - 0xE0) * 64 + (second.toNat - 0x80)) * 64 + (third.toNat - 0x80)), rest) := by
  have range : ¬ lead < 0x80 ∧ ¬ lead < 0xC2 ∧ ¬ 0xF4 < lead ∧ ¬ lead < 0xE0 ∧ lead < 0xF0 := by
    simp only [UInt8.lt_iff_toNat_lt, UInt8.reduceToNat]
    omega
  have admitted : admitsSecond lead second = true := (admitsSecond_iff lead second).2 (by omega)
  have continued : isContinuation third = true := (isContinuation_iff third).2 last
  simp [decodeOne, range, admitted, continued, join]

private theorem decodeOne_four (start : 0xF0 ≤ lead.toNat ∧ lead.toNat < 0xF5)
    (next : 0x80 ≤ second.toNat ∧ second.toNat < 0xC0) (between : 0x80 ≤ third.toNat ∧ third.toNat < 0xC0)
    (last : 0x80 ≤ fourth.toNat ∧ fourth.toNat < 0xC0)
    (long : lead.toNat = 0xF0 → 0x90 ≤ second.toNat) (low : lead.toNat = 0xF4 → second.toNat < 0x90) :
    decodeOne lead (second :: third :: fourth :: rest) =
      .ok (Char.ofNat ((((lead.toNat - 0xF0) * 64 + (second.toNat - 0x80)) * 64 + (third.toNat - 0x80)) * 64 +
        (fourth.toNat - 0x80)), rest) := by
  have range : ¬ lead < 0x80 ∧ ¬ lead < 0xC2 ∧ ¬ 0xF4 < lead ∧ ¬ lead < 0xE0 ∧ ¬ lead < 0xF0 := by
    simp only [UInt8.lt_iff_toNat_lt, UInt8.reduceToNat]
    omega
  have admitted : admitsSecond lead second = true := (admitsSecond_iff lead second).2 (by omega)
  have continued : isContinuation third = true ∧ isContinuation fourth = true :=
    ⟨(isContinuation_iff third).2 between, (isContinuation_iff fourth).2 last⟩
  simp [decodeOne, range, admitted, continued, join]

end

/-- The bytes of a character decode to that character, and the bytes after them are left. -/
theorem decodeOne_encodeOne (c : Char) (rest : List UInt8) :
    ∃ lead tail, encodeOne c = lead :: tail ∧ decodeOne lead (tail ++ rest) = .ok (c, rest) := by
  have valid : c.toNat < 0xD800 ∨ 0xDFFF < c.toNat ∧ c.toNat < 0x110000 := c.valid
  -- For each width the bytes are in range, and the code point is put back together by arithmetic.
  have byte {n : Nat} (small : n < 256) : n.toUInt8.toNat = n := Nat.mod_eq_of_lt small
  have same {n : Nat} (value : n = c.toNat) :
      (.ok (Char.ofNat n, rest) : Except (Refusal × Nat) (Char × List UInt8)) = .ok (c, rest) := by
    rw [value, Char.ofNat_toNat]
  unfold encodeOne
  by_cases one : c.toNat < 0x80
  · refine ⟨_, _, if_pos one, ?_⟩
    have low : c.toNat.toUInt8 < 0x80 := by
      rw [UInt8.lt_iff_toNat_lt, byte (by omega)]
      exact one
    rw [List.nil_append, decodeOne.eq_def, if_pos low, byte (by omega), Char.ofNat_toNat]
  by_cases two : c.toNat < 0x800
  · refine ⟨_, _, by rw [if_neg one, if_pos two], ?_⟩
    have lead := byte (show 0xC0 + c.toNat / 64 < 256 by omega)
    have second := byte (show 0x80 + c.toNat % 64 < 256 by omega)
    exact (decodeOne_two (by omega) (by omega)).trans (same (by omega))
  by_cases three : c.toNat < 0x10000
  · refine ⟨_, _, by rw [if_neg one, if_neg two, if_pos three], ?_⟩
    have lead := byte (show 0xE0 + c.toNat / 4096 < 256 by omega)
    have second := byte (show 0x80 + c.toNat / 64 % 64 < 256 by omega)
    have third := byte (show 0x80 + c.toNat % 64 < 256 by omega)
    exact (decodeOne_three (by omega) (by omega) (by omega) (by omega) (by omega)).trans (same (by omega))
  · refine ⟨_, _, by rw [if_neg one, if_neg two, if_neg three], ?_⟩
    have lead := byte (show 0xF0 + c.toNat / 262144 < 256 by omega)
    have second := byte (show 0x80 + c.toNat / 4096 % 64 < 256 by omega)
    have third := byte (show 0x80 + c.toNat / 64 % 64 < 256 by omega)
    have fourth := byte (show 0x80 + c.toNat % 64 < 256 by omega)
    exact (decodeOne_four (by omega) (by omega) (by omega) (by omega) (by omega) (by omega)).trans (same (by omega))

theorem decodeFrom_encode (position : Nat) (chars : List Char) : decodeFrom position (encode chars) = .ok chars := by
  induction chars generalizing position with
  | nil => simp [encode, decodeFrom]
  | cons c rest ih =>
      obtain ⟨lead, tail, encoded, decoded⟩ := decodeOne_encodeOne c (encode rest)
      rw [encode, List.flatMap_cons, encoded, List.cons_append, decodeFrom]
      split
      · next refused => rw [encode] at decoded; rw [decoded] at refused; cases refused
      · next c' tail' found =>
          rw [encode] at decoded
          rw [decoded] at found
          cases found
          have below := ih (position + c.utf8Size)
          rw [encode] at below
          rw [below]

/-- Text that is written is read again. -/
theorem decode_encode (chars : List Char) : decode (encode chars) = .ok chars := decodeFrom_encode 0 chars

theorem decodeLossy_cons_of_ok {lead : UInt8} {rest tail : List UInt8} {c : Char}
    (found : decodeOne lead rest = .ok (c, tail)) : decodeLossy (lead :: rest) = c :: decodeLossy tail := by
  rw [decodeLossy]
  split
  · next refused =>
      rw [found] at refused
      cases refused
  · next same =>
      rw [found] at same
      injection same with pair
      injection pair with sameChar sameRest
      rw [sameChar, sameRest]

theorem decodeLossy_cons_of_error {lead : UInt8} {rest : List UInt8} {refusal : Refusal} {count : Nat}
    (refused : decodeOne lead rest = .error (refusal, count)) :
    decodeLossy (lead :: rest) = '\uFFFD' :: decodeLossy (rest.drop (count - 1)) := by
  rw [decodeLossy]
  split
  · next same =>
      rw [refused] at same
      cases same
      rfl
  · next found =>
      rw [refused] at found
      cases found

theorem decodeLossy_append (c : Char) (bytes : List UInt8) :
    decodeLossy (encodeOne c ++ bytes) = c :: decodeLossy bytes := by
  obtain ⟨lead, tail, encoded, decoded⟩ := decodeOne_encodeOne c bytes
  rw [encoded, List.cons_append, decodeLossy_cons_of_ok decoded]

theorem decodeLossy_encode (chars : List Char) : decodeLossy (encode chars) = chars := by
  induction chars with
  | nil => simp [encode, decodeLossy]
  | cons c rest ih =>
      rw [encode, List.flatMap_cons, decodeLossy_append]
      exact congrArg (c :: ·) ih

/-! ## Bytes before an ASCII character -/

section

variable {lead byte : UInt8} {rest tail : List UInt8} {c : Char}

-- A character takes four bytes at most, so the cases are how many of three more there are.
theorem decodeOne_append (found : decodeOne lead rest = .ok (c, tail)) (more : List UInt8) :
    decodeOne lead (rest ++ more) = .ok (c, tail ++ more) := by
  rcases rest with _ | ⟨second, _ | ⟨third, _ | ⟨fourth, rest⟩⟩⟩ <;> grind [decodeOne.eq_def]

/-- In front of a byte that continues nothing, the same bytes are to blame as at the end. -/
theorem decodeOne_append_cons {refusal : Refusal} {count : Nat} (stops : isContinuation byte = false)
    (refused : decodeOne lead rest = .error (refusal, count)) (more : List UInt8) :
    count ≤ rest.length + 1 ∧ ∃ refusal, decodeOne lead (rest ++ byte :: more) = .error (refusal, count) := by
  have noSecond : admitsSecond lead byte = false := by
    rw [admitsSecond, stops]
    rfl
  rcases rest with _ | ⟨second, _ | ⟨third, _ | ⟨fourth, rest⟩⟩⟩ <;> grind [decodeOne.eq_def]

theorem decodeLossy_append_cons (stops : isContinuation byte = false) (front more : List UInt8) :
    decodeLossy (front ++ byte :: more) = decodeLossy front ++ decodeLossy (byte :: more) := by
  fun_induction decodeLossy front with
  | case1 => rfl
  | case2 lead rest refusal count refused ih =>
      obtain ⟨short, _, refused⟩ := decodeOne_append_cons stops refused more
      rw [List.cons_append, decodeLossy_cons_of_error refused,
        List.drop_append_of_le_length (Nat.sub_le_of_le_add short), ih, List.cons_append]
  | case3 lead rest c tail found ih =>
      rw [List.cons_append, decodeLossy_cons_of_ok (decodeOne_append found _), ih, List.cons_append]

/-- An ASCII character stands for itself, whatever is in front of it. -/
theorem decodeLossy_append_ascii (ascii : isAscii c = true) (front more : List UInt8) :
    decodeLossy (front ++ c.toNat.toUInt8 :: more) = decodeLossy front ++ c :: decodeLossy more := by
  have small : c.toNat < 0x80 := of_decide_eq_true ascii
  have value : c.toNat.toUInt8.toNat = c.toNat := Nat.mod_eq_of_lt (by omega)
  have stops : isContinuation c.toNat.toUInt8 = false := by
    refine Bool.eq_false_iff.2 fun continued => ?_
    rw [isContinuation_iff, value] at continued
    omega
  have one : encodeOne c = [c.toNat.toUInt8] := if_pos small
  rw [decodeLossy_append_cons stops, ← decodeLossy_append c more, one, List.singleton_append]

theorem eq_nil_of_decodeLossy {bytes : List UInt8} (nothing : decodeLossy bytes = []) : bytes = [] := by
  cases bytes with
  | nil => rfl
  | cons lead rest =>
      rw [decodeLossy] at nothing
      split at nothing <;> cases nothing

end

end QueryHooks.Text.Utf8
