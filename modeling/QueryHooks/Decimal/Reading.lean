import QueryHooks.Decimal.Binary64
import QueryHooks.Text.Integer

/-! Reading decimal fractions: blanks around, a sign, digits of any script with single underscores between them, a power of ten. -/

namespace QueryHooks.Decimal.Reading

open QueryHooks.Text

/-- A run of digits read so far: their number and their value. -/
structure Run where
  count : Nat
  value : Nat

/-- Digits from the start of a text, with single underscores between them, and what follows. -/
def digitsThen (run : Run) : List Char → Run × List Char
  | [] => (run, [])
  | [c] =>
      match decimalValue? c with
      | some d => (⟨run.count + 1, run.value * 10 + d⟩, [])
      | none => (run, [c])
  | c :: '_' :: next :: rest =>
      match decimalValue? c with
      | none => (run, c :: '_' :: next :: rest)
      | some d =>
          let more : Run := ⟨run.count + 1, run.value * 10 + d⟩
          if (decimalValue? next).isSome then digitsThen more (next :: rest) else (more, '_' :: next :: rest)
  | c :: next :: rest =>
      match decimalValue? c with
      | none => (run, c :: next :: rest)
      | some d => digitsThen ⟨run.count + 1, run.value * 10 + d⟩ (next :: rest)

def power? : List Char → Option Int
  | [] => some 0
  | e :: rest =>
      if e == 'e' || e == 'E' then
        let (negative, body) := Integer.splitSign rest
        match digitsThen ⟨0, 0⟩ body with
        | (run, []) =>
            if run.count == 0 then none
            else some (if negative then -Int.ofNat run.value else Int.ofNat run.value)
        | _ => none
      else none

/-- The names of the numbers that digits cannot write. -/
def named? (negative : Bool) (chars : List Char) : Option Binary64 :=
  match String.ofList (chars.map Char.toLower) with
  | "inf" => some (.infinite negative)
  | "infinity" => some (.infinite negative)
  | "nan" => some .nan
  | _ => none

def unsigned? (negative : Bool) (chars : List Char) : Option Binary64 :=
  match named? negative chars with
  | some x => some x
  | none =>
      let (whole, rest) := digitsThen ⟨0, 0⟩ chars
      let (both, rest) := match rest with
        | '.' :: after => if after.head? == some '_' then (whole, rest) else digitsThen whole after
        | _ => (whole, rest)
      if both.count == 0 then none
      else (power? rest).map fun power =>
        Binary64.ofDecimal negative both.value both.count (power - Int.ofNat (both.count - whole.count))

def read? (chars : List Char) : Option Binary64 :=
  let (negative, body) := Integer.splitSign (Integer.trimMargin chars)
  unsigned? negative body

end QueryHooks.Decimal.Reading
