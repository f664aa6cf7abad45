import QueryHooks.Proofs.Text.Pieces
import QueryHooks.Proofs.Text.Utf8
import QueryHooks.Text.Percent

/-!
What is quoted is read back, whether a character stands for itself or is spelled by its bytes, and a text without
percent signs is read as it is.
-/

namespace QueryHooks.Text.Percent

theorem hexValue?_hexDigit {value : Nat} (small : value < 16) : hexValue? (hexDigit value) = some value := by
  revert value
  decide

theorem isAscii_of_hexValue? {c : Char} {value : Nat} (isDigit : hexValue? c = some value) : isAscii c = true := by
  have below {last : Char} (le : c ≤ last) (small : last.toNat < 128) : isAscii c = true :=
    decide_eq_true (Nat.lt_of_le_of_lt (Char.le_def.1 le) small)
  rw [hexValue?] at isDigit
  split at isDigit
  · next digit =>
      rw [isAsciiDigit, Bool.and_eq_true, decide_eq_true_eq, decide_eq_true_eq] at digit
      exact below digit.2 (by decide)
  · split at isDigit
    · next small =>
        rw [Bool.and_eq_true, decide_eq_true_eq, decide_eq_true_eq] at small
        exact below small.2 (by decide)
    · split at isDigit
      · next capital =>
          rw [Bool.and_eq_true, decide_eq_true_eq, decide_eq_true_eq] at capital
          exact below capital.2 (by decide)
      · cases isDigit

/-- A character stands for itself, a percent sign too unless two hexadecimal digits follow. -/
theorem bytes_cons_of_no_code {c : Char} {rest : List Char}
    (noCode : ∀ high low more, c = '%' → rest = high :: low :: more → hexValue? high = none ∨ hexValue? low = none) :
    bytes (c :: rest) = c.toNat.toUInt8 :: bytes rest := by
  by_cases percent : c = '%'
  · subst percent
    match rest with
    | [] => simp [bytes]
    | [_] => simp [bytes]
    | high :: low :: more =>
        rw [bytes]
        rcases noCode high low more rfl rfl with noHigh | noLow
        · rw [noHigh]
          rfl
        · rw [noLow]
          cases hexValue? high <;> rfl
  · rw [bytes]
    exact fun _ _ _ same _ => percent same

theorem bytes_cons {c : Char} (plain : c ≠ '%') (rest : List Char) :
    bytes (c :: rest) = c.toNat.toUInt8 :: bytes rest :=
  bytes_cons_of_no_code fun _ _ _ percent _ => absurd percent plain

/-! ## Bytes that are spelled -/

/-- Whether characters spell bytes, each as a percent sign and two hexadecimal digits of either case. -/
inductive Spells : List UInt8 → List Char → Prop
  | nil : Spells [] []
  | cons {byte : UInt8} {high low : Char} {octets : List UInt8} {code : List Char}
      (isHigh : hexValue? high = some (byte.toNat / 16)) (isLow : hexValue? low = some (byte.toNat % 16))
      (rest : Spells octets code) : Spells (byte :: octets) ('%' :: high :: low :: code)

theorem isAscii_of_spells {octets : List UInt8} {code : List Char} (spelled : Spells octets code) :
    ∀ c ∈ code, isAscii c = true := by
  induction spelled with
  | nil => exact List.forall_mem_nil _
  | cons isHigh isLow _ ih =>
      exact List.forall_mem_cons.2 ⟨by decide, List.forall_mem_cons.2 ⟨isAscii_of_hexValue? isHigh,
        List.forall_mem_cons.2 ⟨isAscii_of_hexValue? isLow, ih⟩⟩⟩

theorem bytes_of_spells {octets : List UInt8} {code : List Char} (spelled : Spells octets code) (rest : List Char) :
    bytes (code ++ rest) = octets ++ bytes rest := by
  induction spelled with
  | nil => rfl
  | @cons byte high low octets code isHigh isLow _ ih =>
      have value : (byte.toNat / 16 * 16 + byte.toNat % 16).toUInt8 = byte := by
        rw [Nat.div_add_mod']
        exact UInt8.ofNat_toNat
      rw [List.cons_append, List.cons_append, List.cons_append, bytes, isHigh, isLow, ih]
      exact congrArg (· :: (octets ++ bytes rest)) value

theorem spells_encodeByte (byte : UInt8) : Spells [byte] (encodeByte byte) := by
  have bound : byte.toNat < 256 := byte.toNat_lt
  exact .cons (hexValue?_hexDigit (by omega)) (hexValue?_hexDigit (by omega)) .nil

theorem bytes_encodeByte (byte : UInt8) (rest : List Char) :
    bytes (encodeByte byte ++ rest) = byte :: bytes rest :=
  bytes_of_spells (spells_encodeByte byte) rest

theorem decodeRuns_append_ascii {chars : List Char} (run rest : List Char) (ascii : ∀ c ∈ chars, isAscii c = true) :
    decodeRuns run (chars ++ rest) = decodeRuns (chars.reverse ++ run) rest := by
  induction chars generalizing run with
  | nil => rfl
  | cons c chars ih =>
      obtain ⟨isOne, later⟩ := List.forall_mem_cons.1 ascii
      rw [List.cons_append, decodeRuns, isOne, if_pos rfl, ih _ later, List.reverse_cons, List.append_assoc,
        List.singleton_append]

theorem decode_ascii {chars : List Char} (ascii : ∀ c ∈ chars, isAscii c = true) :
    decode chars = Utf8.decodeLossy (bytes chars) := by
  have whole := decodeRuns_append_ascii [] [] ascii
  rwa [List.append_nil, List.append_nil, decodeRuns, List.reverse_reverse] at whole

/-! ## Texts that are quoted -/

/--
Whether a text is quoted as another: each character stands for itself, which the percent sign may not, or is
spelled by its bytes.
-/
inductive Quotes : List Char → List Char → Prop
  | nil : Quotes [] []
  | kept {c : Char} {chars written : List Char} (plain : c ≠ '%') (rest : Quotes chars written) :
      Quotes (c :: chars) (c :: written)
  | coded {c : Char} {chars code written : List Char} (spelled : Spells (Utf8.encodeOne c) code)
      (rest : Quotes chars written) : Quotes (c :: chars) (code ++ written)

theorem Quotes.append {chars written chars' written' : List Char} (first : Quotes chars written)
    (second : Quotes chars' written') : Quotes (chars ++ chars') (written ++ written') := by
  induction first with
  | nil => exact second
  | kept plain _ ih => exact .kept plain ih
  | coded spelled _ ih =>
      rw [List.append_assoc]
      exact .coded spelled ih

theorem quotes_self {chars : List Char} (free : '%' ∉ chars) : Quotes chars chars := by
  induction chars with
  | nil => exact .nil
  | cons c rest ih =>
      obtain ⟨other, later⟩ := List.ne_and_not_mem_of_not_mem_cons free
      exact .kept other.symm (ih later)

/-- The bytes of a quotation in ASCII are those of the text. -/
theorem bytes_of_quotes {chars written : List Char} (quoted : Quotes chars written)
    (ascii : ∀ c ∈ written, isAscii c = true) : bytes written = Utf8.encode chars := by
  induction quoted with
  | nil => rw [bytes]; rfl
  | @kept c chars written plain _ ih =>
      obtain ⟨isOne, later⟩ := List.forall_mem_cons.1 ascii
      rw [bytes_cons plain, ih later, Utf8.encode, Utf8.encode, List.flatMap_cons, Utf8.encodeOne,
        if_pos (of_decide_eq_true isOne), List.singleton_append]
  | coded spelled _ ih =>
      rw [bytes_of_spells spelled, ih fun c inside => ascii c (List.mem_append_right _ inside)]
      rfl

private theorem decodeLossy_of_quotes {before run : List Char} (waiting : Quotes before run.reverse)
    (ascii : ∀ c ∈ run, isAscii c = true) : Utf8.decodeLossy (bytes run.reverse) = before := by
  rw [bytes_of_quotes waiting fun c inside => ascii c (List.mem_reverse.1 inside), Utf8.decodeLossy_encode]

-- A run of ASCII is decoded at its end only, so the induction carries what the run that waits quotes.
private theorem decodeRuns_of_quotes {chars written : List Char} (quoted : Quotes chars written)
    (before run : List Char) (waiting : Quotes before run.reverse) (ascii : ∀ c ∈ run, isAscii c = true) :
    decodeRuns run written = before ++ chars := by
  induction quoted generalizing before run with
  | nil => rw [decodeRuns, decodeLossy_of_quotes waiting ascii, List.append_nil]
  | @kept c chars written plain _ ih =>
      rw [decodeRuns]
      split
      · next isOne =>
          have longer : Quotes (before ++ [c]) (c :: run).reverse := by
            rw [List.reverse_cons]
            exact waiting.append (.kept plain .nil)
          rw [ih _ _ longer (List.forall_mem_cons.2 ⟨isOne, ascii⟩), List.append_assoc, List.singleton_append]
      · rw [decodeLossy_of_quotes waiting ascii, ih [] [] .nil (List.forall_mem_nil _), List.nil_append]
  | @coded c chars code written spelled _ ih =>
      have isCode := isAscii_of_spells spelled
      have longer : Quotes (before ++ [c]) (code.reverse ++ run).reverse := by
        rw [List.reverse_append, List.reverse_reverse]
        exact waiting.append (List.append_nil code ▸ .coded spelled .nil)
      have stillAscii : ∀ d ∈ code.reverse ++ run, isAscii d = true := by
        intro d inside
        exact (List.mem_append.1 inside).elim (fun own => isCode d (List.mem_reverse.1 own)) (ascii d)
      rw [decodeRuns_append_ascii _ _ isCode, ih _ _ longer stillAscii, List.append_assoc, List.singleton_append]

/-- What is quoted is read back. -/
theorem decode_of_quotes {chars written : List Char} (quoted : Quotes chars written) : decode written = chars :=
  decodeRuns_of_quotes quoted [] [] .nil (List.forall_mem_nil _)

theorem decode_of_not_mem {chars : List Char} (free : '%' ∉ chars) : decode chars = chars :=
  decode_of_quotes (quotes_self free)

/-! ## Texts between marks -/

section

variable {mark : Char}

theorem bytes_append_mark (plain : mark ≠ '%') (noDigit : hexValue? mark = none) (front rest : List Char) :
    bytes (front ++ mark :: rest) = bytes front ++ mark.toNat.toUInt8 :: bytes rest := by
  fun_induction bytes front with
  | case1 => exact bytes_cons plain rest
  | case2 high low more h l isHigh isLow ih =>
      rw [List.cons_append, List.cons_append, List.cons_append, bytes, isHigh, isLow, ih]
      rfl
  | case3 high low more other ih =>
      rw [List.cons_append, bytes_cons_of_no_code, ih]
      · rfl
      · intro high' low' more' _ same
        obtain ⟨rfl, rest⟩ := List.cons.inj same
        obtain ⟨rfl, _⟩ := List.cons.inj rest
        cases isHigh : hexValue? high with
        | none => exact .inl rfl
        | some h => exact .inr (Option.eq_none_iff_forall_ne_some.2 fun l isLow => other h l isHigh isLow)
  | case4 c more other ih =>
      rw [List.cons_append, bytes_cons_of_no_code, ih, List.cons_append]
      intro high low others percent same
      match more with
      | [] => exact .inl ((List.cons.inj same).1 ▸ noDigit)
      | [_] => exact .inr ((List.cons.inj (List.cons.inj same).2).1 ▸ noDigit)
      | _ :: _ :: _ => exact (other _ _ _ percent rfl).elim

-- A run is decoded at its end, so what waits of it is in front of the mark until then.
private theorem decodeRuns_behind_mark (ascii : isAscii mark = true) (plain : mark ≠ '%')
    (noDigit : hexValue? mark = none) (waiting run chars : List Char) :
    decodeRuns (waiting ++ mark :: run) chars =
      Utf8.decodeLossy (bytes run.reverse) ++ mark :: decodeRuns waiting chars := by
  have cut (waiting : List Char) : Utf8.decodeLossy (bytes (waiting ++ mark :: run).reverse) =
      Utf8.decodeLossy (bytes run.reverse) ++ mark :: Utf8.decodeLossy (bytes waiting.reverse) := by
    rw [List.reverse_append, List.reverse_cons, List.append_assoc, List.singleton_append,
      bytes_append_mark plain noDigit, Utf8.decodeLossy_append_ascii ascii]
  induction chars generalizing waiting with
  | nil => rw [decodeRuns, decodeRuns, cut]
  | cons c rest ih =>
      rw [decodeRuns, decodeRuns]
      split
      · exact ih (c :: waiting)
      · rw [cut, List.append_assoc, List.cons_append]

private theorem decodeRuns_append_mark (ascii : isAscii mark = true) (plain : mark ≠ '%')
    (noDigit : hexValue? mark = none) (run front rest : List Char) :
    decodeRuns run (front ++ mark :: rest) = decodeRuns run front ++ mark :: decode rest := by
  induction front generalizing run with
  | nil =>
      rw [List.nil_append, decodeRuns.eq_2, if_pos ascii, decodeRuns, decode]
      exact decodeRuns_behind_mark ascii plain noDigit [] run rest
  | cons c front ih =>
      rw [List.cons_append, decodeRuns, decodeRuns]
      split
      · exact ih (c :: run)
      · rw [ih, List.append_assoc, List.cons_append]

/-- A text is decoded piece by piece: a mark that no code has in it is a mark of what is decoded. -/
theorem decode_intercalate (ascii : isAscii mark = true) (plain : mark ≠ '%') (noDigit : hexValue? mark = none)
    (pieces : List (List Char)) :
    decode ([mark].intercalate pieces) = [mark].intercalate (pieces.map decode) := by
  induction pieces with
  | nil => exact decode_of_not_mem List.not_mem_nil
  | cons piece others ih =>
      cases others with
      | nil => rw [List.map_singleton, List.intercalate_singleton, List.intercalate_singleton]
      | cons next others =>
          rw [List.map_cons, List.map_cons, List.intercalate_cons_cons, List.intercalate_cons_cons, ← List.map_cons,
            ← ih, List.append_assoc, List.append_assoc]
          exact decodeRuns_append_mark ascii plain noDigit [] piece _

/-- When no piece has a mark that is encoded, decoding keeps the pieces. -/
theorem splitOn_decode (ascii : isAscii mark = true) (plain : mark ≠ '%') (noDigit : hexValue? mark = none)
    {chars : List Char} (free : ∀ piece ∈ splitOn mark chars, mark ∉ decode piece) :
    splitOn mark (decode chars) = (splitOn mark chars).map decode := by
  have whole := decode_intercalate ascii plain noDigit (splitOn mark chars)
  rw [intercalate_splitOn] at whole
  rw [whole]
  refine splitOn_intercalate (fun none => splitOn_ne_nil mark chars (List.map_eq_nil_iff.1 none)) fun piece inside => ?_
  obtain ⟨written, member, rfl⟩ := List.mem_map.1 inside
  exact free written member

end

theorem eq_nil_of_bytes {chars : List Char} (nothing : bytes chars = []) : chars = [] := by
  unfold bytes at nothing
  split at nothing
  · rfl
  · split at nothing <;> cases nothing
  · cases nothing

private theorem eq_nil_of_decodeRuns {run chars : List Char} (nothing : decodeRuns run chars = []) :
    run = [] ∧ chars = [] := by
  induction chars generalizing run with
  | nil =>
      rw [decodeRuns] at nothing
      exact ⟨List.reverse_eq_nil_iff.1 (eq_nil_of_bytes (Utf8.eq_nil_of_decodeLossy nothing)), rfl⟩
  | cons c rest ih =>
      rw [decodeRuns] at nothing
      split at nothing
      · exact absurd (ih nothing).1 (List.cons_ne_nil _ _)
      · exact absurd nothing (List.append_ne_nil_of_right_ne_nil _ (List.cons_ne_nil _ _))

/-- Only no text is decoded to no text. -/
theorem decode_eq_nil_iff {chars : List Char} : decode chars = [] ↔ chars = [] := by
  constructor
  · exact fun nothing => (eq_nil_of_decodeRuns nothing).2
  · rintro rfl
    exact decode_of_not_mem List.not_mem_nil

end QueryHooks.Text.Percent
