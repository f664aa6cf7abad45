import QueryHooks.Text.Class

/-! Reading base 64: characters outside the alphabet are passed over, and padding may end the text early. -/

namespace QueryHooks.Text.Base64

def sextet? (c : Char) : Option Nat :=
  if isAsciiUpper c then some (c.toNat - 65)
  else if isAsciiLower c then some (c.toNat - 71)
  else if isAsciiDigit c then some (c.toNat + 4)
  else if c == '+' then some 62
  else if c == '/' then some 63
  else none

/-- Reading with `filled` sextets of the current group, their unwritten bits, and the padding seen since. -/
def decodeFrom (filled bits pads : Nat) : List Char → Option (List UInt8)
  | [] => if filled == 0 then some [] else none
  | '=' :: rest =>
      if 2 ≤ filled && 4 ≤ filled + pads + 1 then some []
      else decodeFrom filled bits (if 2 ≤ filled then pads + 1 else pads) rest
  | c :: rest =>
      match sextet? c with
      | none => decodeFrom filled bits pads rest
      | some value =>
          match filled with
          | 0 => decodeFrom 1 value 0 rest
          | 1 => (decodeFrom 2 (value % 16) 0 rest).map ((bits * 4 + value / 16).toUInt8 :: ·)
          | 2 => (decodeFrom 3 (value % 4) 0 rest).map ((bits * 16 + value / 4).toUInt8 :: ·)
          | _ => (decodeFrom 0 0 0 rest).map ((bits * 64 + value).toUInt8 :: ·)

/-- The bytes that a text denotes; `none` when its last group is incomplete. -/
def decode? (chars : List Char) : Option (List UInt8) := decodeFrom 0 0 0 chars

end QueryHooks.Text.Base64
