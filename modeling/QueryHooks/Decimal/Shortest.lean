import QueryHooks.Decimal.Binary64

/-!
The shortest decimal that reads back to a binary number, and its layout. For one digit, two digits and
so on, the two neighbours of the value on that decimal grid are tested against the interval of reals
that round to it.
-/

namespace QueryHooks.Decimal

/-- Decimal digits and the place of the decimal point: `0.d₁d₂… * 10 ^ point`. -/
structure Digits where
  digits : List Char
  point : Int
deriving DecidableEq, Repr

/-- A positive value and the interval that rounds to it, over a common denominator. -/
structure Interval where
  low : Nat
  value : Nat
  high : Nat
  den : Nat
  closed : Bool

/-- The interval halfway to the neighbours; the lower one is nearer below a power of two. -/
def interval (mantissa : Nat) (exponent : Int) : Interval :=
  let (unit, den) := Binary64.scale 1 1 (exponent - 2)
  let value := 4 * mantissa * unit
  let below := if mantissa == Binary64.leastMantissa && Binary64.leastExponent < exponent then unit else 2 * unit
  ⟨value - below, value, value + 2 * unit, den, mantissa % 2 == 0⟩

def width (n : Nat) : Nat := (Nat.toDigits 10 n).length

def pointOf (num den : Nat) : Int :=
  if den ≤ num then Int.ofNat (width (num / den)) else 1 - Int.ofNat (width ((den - 1) / num))

namespace Interval

/-- Whether `n * 10 ^ power` rounds to the value. -/
def holds (i : Interval) (n : Nat) (power : Int) : Bool :=
  let (n, den) := if 0 ≤ power then (n * Binary64.pow10 power.toNat * i.den, 1) else (n * i.den, Binary64.pow10 (-power).toNat)
  if i.closed then i.low * den ≤ n && n ≤ i.high * den else i.low * den < n && n < i.high * den

/-- The neighbour of the value on the grid of step `10 ^ power` that rounds to it, the nearer of two, the even one of equally near ones. -/
def onGrid (i : Interval) (power : Int) : Option Nat :=
  let (num, den) :=
    if 0 ≤ power then (i.value, i.den * Binary64.pow10 power.toNat)
    else (i.value * Binary64.pow10 (-power).toNat, i.den)
  let down := num / den
  let rest := num % den
  match i.holds down power, i.holds (down + 1) power with
  | true, true =>
      if 2 * rest < den || (2 * rest == den && down % 2 == 0) then some down else some (down + 1)
  | true, false => some down
  | false, true => some (down + 1)
  | false, false => none

/-- The first of the grids of `count`, `count + 1`, … digits that has a neighbour, at most `fuel` of them. -/
def search (i : Interval) (point : Int) (count : Nat) : Nat → Nat × Int
  | 0 => (i.value / i.den, 0)
  | fuel + 1 =>
      match i.onGrid (point - count) with
      | some n => (n, point - count)
      | none => search i point (count + 1) fuel

end Interval

private def dropTrailingZeros (digits : List Char) : List Char :=
  (digits.reverse.dropWhile (· == '0')).reverse

/-- The shortest digits of a positive number. Seventeen always suffice. -/
def shortest (mantissa : Nat) (exponent : Int) : Digits :=
  let i := interval mantissa exponent
  let (n, power) := i.search (pointOf i.value i.den) 1 17
  let digits := Nat.toDigits 10 n
  ⟨dropTrailingZeros digits, Int.ofNat digits.length + power⟩

/-- Where positional notation ends, and how an exponent is written. -/
structure Layout where
  leastPoint : Int
  greatestPoint : Int
  exponentWidth : Nat
  nan : List Char
  infinity : List Char

private def padded (width : Nat) (n : Nat) : List Char :=
  let digits := Nat.toDigits 10 n
  List.replicate (width - digits.length) '0' ++ digits

namespace Layout

private def scientific (layout : Layout) (number : Digits) : List Char :=
  let power := number.point - 1
  let mantissa := match number.digits with
    | [] => ['0']
    | [d] => [d]
    | d :: rest => d :: '.' :: rest
  mantissa ++ ['e', if power < 0 then '-' else '+'] ++ padded layout.exponentWidth power.natAbs

private def positional (number : Digits) : List Char :=
  let count := number.digits.length
  if number.point ≤ 0 then '0' :: '.' :: List.replicate (-number.point).toNat '0' ++ number.digits
  else if count ≤ number.point.toNat then
    number.digits ++ List.replicate (number.point.toNat - count) '0' ++ ['.', '0']
  else number.digits.take number.point.toNat ++ '.' :: number.digits.drop number.point.toNat

private def magnitude (layout : Layout) (mantissa : Nat) (exponent : Int) : List Char :=
  if mantissa == 0 then ['0', '.', '0']
  else
    let number := shortest mantissa exponent
    if layout.leastPoint ≤ number.point && number.point ≤ layout.greatestPoint then positional number
    else layout.scientific number

private def withSign (negative : Bool) (chars : List Char) : List Char :=
  if negative then '-' :: chars else chars

def write (layout : Layout) : Binary64 → List Char
  | .nan => layout.nan
  | .infinite negative => withSign negative layout.infinity
  | .finite negative mantissa exponent => withSign negative (layout.magnitude mantissa exponent)

/-- A number that digits write has a point, or an exponent with its sign. -/
theorem exists_mem_write (layout : Layout) (negative : Bool) (mantissa : Nat) (exponent : Int) :
    ∃ c ∈ layout.write (.finite negative mantissa exponent), c ∈ ['.', '-', '+'] := by
  have signed (power : Int) : (if power < 0 then '-' else '+') ∈ ['.', '-', '+'] := by
    split <;> decide
  have marked : ∃ c ∈ layout.magnitude mantissa exponent, c ∈ ['.', '-', '+'] := by
    unfold magnitude
    split
    · exact ⟨'.', by decide, by decide⟩
    · dsimp only
      split
      · refine ⟨'.', ?_, by decide⟩
        unfold positional
        dsimp only
        split
        · simp
        · split <;> simp
      · exact ⟨_, List.mem_append_left _ (List.mem_append_right _ (.tail _ (.head _))), signed _⟩
  obtain ⟨c, inside, mark⟩ := marked
  refine ⟨c, ?_, mark⟩
  rw [write, withSign]
  split
  · exact List.mem_cons_of_mem _ inside
  · exact inside

end Layout

end QueryHooks.Decimal
