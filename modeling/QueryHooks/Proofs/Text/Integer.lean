import Mathlib.Algebra.Group.Nat.Defs
import QueryHooks.Text.Integer

/-! Plain decimal numerals are read as what they say, within the limit on their digits. -/

namespace QueryHooks.Text.Integer

variable {c : Char} {chars : List Char}

theorem toNat_of_isAsciiDigit (digit : isAsciiDigit c = true) : 48 ≤ c.toNat ∧ c.toNat ≤ 57 := by
  rw [isAsciiDigit, Bool.and_eq_true, decide_eq_true_eq, decide_eq_true_eq] at digit
  exact ⟨Char.le_def.1 digit.1, Char.le_def.1 digit.2⟩

/-- Digits say at least the power of ten that their number gives, when the first of them is no zero. -/
theorem pow_length_le_ofDigitChars (digit : isAsciiDigit c = true) (noZero : c ≠ '0') (rest : List Char) :
    10 ^ rest.length ≤ Nat.ofDigitChars 10 (c :: rest) 0 := by
  have first : 1 ≤ c.toNat - '0'.toNat := by
    have bounds := toNat_of_isAsciiDigit digit
    have other : c.toNat ≠ '0'.toNat := fun same => noZero (Char.toNat_inj.1 same)
    change c.toNat ≠ 48 at other
    change 1 ≤ c.toNat - 48
    omega
  rw [Nat.ofDigitChars_cons, Nat.ofDigitChars_eq_ofDigitChars_zero, Nat.mul_zero, Nat.zero_add]
  exact Nat.le_add_right_of_le (Nat.le_mul_of_pos_right _ first)

theorem not_margin_of_isAsciiDigit (digit : isAsciiDigit c = true) : isMargin c = false := by
  have bounds := toNat_of_isAsciiDigit digit
  simp [isMargin, isBlank, inRanges]
  omega

theorem digitValue?_of_isAsciiDigit (digit : isAsciiDigit c = true) : digitValue? 10 c = some (c.toNat - 48) := by
  have bounds := toNat_of_isAsciiDigit digit
  have ascii : isAscii c = true := decide_eq_true (by omega)
  rw [digitValue?, decimalValue?, ascii, digit, if_pos rfl, if_pos rfl, Option.some_or]
  exact if_pos (by omega)

theorem trimMargin_of_digits (digits : ∀ c ∈ chars, isAsciiDigit c = true) : trimMargin chars = chars := by
  have kept {chars : List Char} (digits : ∀ c ∈ chars, isAsciiDigit c = true) : chars.dropWhile isMargin = chars := by
    cases chars with
    | nil => rfl
    | cons c rest =>
        exact List.dropWhile_cons_of_neg (by simp [not_margin_of_isAsciiDigit (digits c List.mem_cons_self)])
  rw [trimMargin, kept digits, kept fun c inside => digits c (List.mem_reverse.1 inside), List.reverse_reverse]

theorem splitSign_of_digits (digits : ∀ c ∈ chars, isAsciiDigit c = true) : splitSign chars = (false, chars) := by
  unfold splitSign
  split
  · exact absurd (digits '-' List.mem_cons_self) (by decide)
  · exact absurd (digits '+' List.mem_cons_self) (by decide)
  · rfl

theorem dropMark_decimal (chars : List Char) : dropMark 10 chars = chars := by
  unfold dropMark
  split <;> rfl

theorem digits?_of_digits (nonempty : chars ≠ []) (digits : ∀ c ∈ chars, isAsciiDigit c = true) (count value : Nat) :
    digits? 10 count value chars = some (count + chars.length, Nat.ofDigitChars 10 chars value) := by
  induction chars generalizing count value with
  | nil => exact absurd rfl nonempty
  | cons c rest ih =>
      obtain ⟨digit, later⟩ := List.forall_mem_cons.1 digits
      have isDigit := digitValue?_of_isAsciiDigit digit
      cases rest with
      | nil => rw [digits?, isDigit, Nat.ofDigitChars_cons, Nat.ofDigitChars_nil, Nat.mul_comm 10]; rfl
      | cons d others =>
          have noMark : d ≠ '_' := by
            rintro rfl
            exact absurd (later '_' List.mem_cons_self) (by decide)
          rw [digits?, isDigit]
          · simp only
            rw [ih (List.cons_ne_nil _ _) later, List.length_cons, Nat.add_assoc, Nat.add_comm 1, Nat.mul_comm value]
            exact congrArg (fun value => some (count + (others.length + 1 + 1), value)) Nat.ofDigitChars_cons.symm
          · exact List.cons_ne_nil _ _
          · exact fun _ same => noMark (List.cons.inj same).1

/-- A numeral of ASCII digits is read unless it is too long. -/
theorem read?_of_digits (nonempty : chars ≠ []) (digits : ∀ c ∈ chars, isAsciiDigit c = true) :
    read? 10 chars =
      if chars.length ≤ maxDecimalDigits then some (Int.ofNat (Nat.ofDigitChars 10 chars 0)) else none := by
  rw [read?, trimMargin_of_digits digits, splitSign_of_digits digits]
  simp only
  rw [dropMark_decimal, digits?_of_digits nonempty digits, Nat.zero_add]
  by_cases short : chars.length ≤ maxDecimalDigits
  · simp [short]
  · simp [short]

end QueryHooks.Text.Integer
