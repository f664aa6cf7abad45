import QueryHooks.Text.Class

/-! Reading integers: blanks around, a sign, a base mark, digits of any script with single underscores between them. -/

namespace QueryHooks.Text.Integer

/-- Decimal numerals longer than this are refused. -/
def maxDecimalDigits : Nat := 4300

/-- White space that may surround a numeral. -/
def isMargin (c : Char) : Bool := isBlank c && !(28 ≤ c.toNat && c.toNat ≤ 31)

def trimMargin (chars : List Char) : List Char :=
  ((chars.dropWhile isMargin).reverse.dropWhile isMargin).reverse

/-- The value of a digit in a base; decimal digits of other scripts count as their values. -/
def digitValue? (base : Nat) (c : Char) : Option Nat :=
  match (decimalValue? c).or (hexValue? c) with
  | some value => if value < base then some value else none
  | none => none

/-- Digits with single underscores between them, `count` of them read so far with value `value`. -/
def digits? (base : Nat) : (count value : Nat) → List Char → Option (Nat × Nat)
  | _, _, [] => none
  | count, value, [c] => (digitValue? base c).map fun digit => (count + 1, value * base + digit)
  | count, value, c :: '_' :: rest =>
      match digitValue? base c with
      | some digit => digits? base (count + 1) (value * base + digit) rest
      | none => none
  | count, value, c :: rest =>
      match digitValue? base c with
      | some digit => digits? base (count + 1) (value * base + digit) rest
      | none => none

/-- The letter that marks a base after a leading zero. -/
def baseMark? : Nat → Option (Char × Char)
  | 2 => some ('b', 'B')
  | 8 => some ('o', 'O')
  | 16 => some ('x', 'X')
  | _ => none

/-- Drop the mark of the base, and one underscore after it. -/
def dropMark (base : Nat) : List Char → List Char
  | '0' :: c :: rest =>
      match baseMark? base with
      | some (small, large) =>
          if c == small || c == large then
            match rest with
            | '_' :: more => more
            | _ => rest
          else '0' :: c :: rest
      | none => '0' :: c :: rest
  | chars => chars

def splitSign : List Char → Bool × List Char
  | '-' :: rest => (true, rest)
  | '+' :: rest => (false, rest)
  | chars => (false, chars)

def read? (base : Nat) (chars : List Char) : Option Int :=
  let (negative, body) := splitSign (trimMargin chars)
  match digits? base 0 0 (dropMark base body) with
  | none => none
  | some (count, value) =>
      if base == 10 && maxDecimalDigits < count then none
      else some (if negative then -Int.ofNat value else Int.ofNat value)

end QueryHooks.Text.Integer
