/-!
Binary floating-point numbers of 64 bits, as exact rationals. Every operation computes exactly and
then takes the nearest number, a tie going to the even mantissa.
-/

namespace QueryHooks.Decimal

/-- A finite number is `mantissa * 2 ^ exponent` with a mantissa below `2 ^ 53`. -/
inductive Binary64
  | nan
  | infinite (negative : Bool)
  | finite (negative : Bool) (mantissa : Nat) (exponent : Int)
deriving DecidableEq, Repr, Inhabited

namespace Binary64

/-- The exponent of zero and of the numbers nearest to it. -/
def leastExponent : Int := -1074

/-- The exponent of the greatest numbers. -/
def greatestExponent : Int := 971

def zero (negative : Bool) : Binary64 := .finite negative 0 leastExponent

/-- The quotient to the nearest integer, a tie going to the even one. -/
def divideToEven (num den : Nat) : Nat :=
  let quotient := num / den
  let twice := 2 * (num % den)
  if den < twice || (twice == den && quotient % 2 == 1) then quotient + 1 else quotient

def pow2 (n : Nat) : Nat := Nat.pow 2 n

def pow10 (n : Nat) : Nat := Nat.pow 10 n

/-- A mantissa of 53 bits starts here. -/
def leastMantissa : Nat := pow2 52

/-- A quotient of naturals scaled by a power of two, as a quotient of naturals. -/
def scale (num den : Nat) (power : Int) : Nat × Nat :=
  if 0 ≤ power then (num * pow2 power.toNat, den) else (num, den * pow2 (-power).toNat)

/-- The nearest number to `num / den`. -/
def ofRatio (negative : Bool) (num den : Nat) : Binary64 :=
  if num == 0 then zero negative
  else
    let guess : Int := Int.ofNat num.log2 - Int.ofNat den.log2 - 52
    let (n, d) := scale num den (-guess)
    let fitted := if n / d < leastMantissa then guess - 1 else guess
    let exponent := if fitted < leastExponent then leastExponent else fitted
    let (n, d) := scale num den (-exponent)
    let rounded := divideToEven n d
    let (mantissa, exponent) := if rounded == 2 * leastMantissa then (leastMantissa, exponent + 1) else (rounded, exponent)
    if greatestExponent < exponent then .infinite negative else .finite negative mantissa exponent

/-- The nearest number to `digits * 10 ^ power`, where `digits` has `count` decimal digits or fewer. -/
def ofDecimal (negative : Bool) (digits count : Nat) (power : Int) : Binary64 :=
  if digits == 0 then zero negative
  else if 400 < power then .infinite negative
  else if Int.ofNat count + power < -330 then zero negative
  else if 0 ≤ power then ofRatio negative (digits * pow10 power.toNat) 1
  else ofRatio negative digits (pow10 (-power).toNat)

def ofInt (value : Int) : Binary64 := ofRatio (decide (value < 0)) value.natAbs 1

def neg : Binary64 → Binary64
  | .nan => .nan
  | .infinite negative => .infinite (!negative)
  | .finite negative mantissa exponent => .finite (!negative) mantissa exponent

def isZero : Binary64 → Bool
  | .finite _ mantissa _ => mantissa == 0
  | _ => false

private def signed (negative : Bool) (magnitude : Nat) : Int :=
  if negative then -Int.ofNat magnitude else Int.ofNat magnitude

def add : Binary64 → Binary64 → Binary64
  | .nan, _ => .nan
  | _, .nan => .nan
  | .infinite a, .infinite b => if a == b then .infinite a else .nan
  | .infinite a, .finite .. => .infinite a
  | .finite .., .infinite b => .infinite b
  | .finite a m e, .finite b n f =>
      let low := if f < e then f else e
      let sum := signed a (m * pow2 (e - low).toNat) + signed b (n * pow2 (f - low).toNat)
      if sum == 0 then zero (a && b)
      else
        let (num, den) := scale sum.natAbs 1 low
        ofRatio (decide (sum < 0)) num den

def mul : Binary64 → Binary64 → Binary64
  | .nan, _ => .nan
  | _, .nan => .nan
  | .infinite a, .infinite b => .infinite (a != b)
  | .infinite a, .finite b n _ => if n == 0 then .nan else .infinite (a != b)
  | .finite a m _, .infinite b => if m == 0 then .nan else .infinite (a != b)
  | .finite a m e, .finite b n f =>
      let (num, den) := scale (m * n) 1 (e + f)
      ofRatio (a != b) num den

def toInt? : Binary64 → Option Int
  | .finite negative mantissa exponent =>
      let (num, den) := scale mantissa 1 exponent
      if num % den == 0 then some (signed negative (num / den)) else none
  | _ => none

/-- Equality of values: both zeros are the same number. -/
def sameValue (a b : Binary64) : Bool := a == b || (isZero a && isZero b)

end Binary64

end QueryHooks.Decimal
