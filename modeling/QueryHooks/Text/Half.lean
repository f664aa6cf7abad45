/-!
Halves of surrogate pairs. Escapes can name a half on its own, and such a half stays in a text. No
character is half a pair, so it is kept as one of plane 7, which has no characters of its own.
-/

namespace QueryHooks.Text.Half

/-- Whether a code unit is the first half of a pair. -/
def isHigh (unit : Nat) : Bool := 0xD800 ≤ unit && unit < 0xDC00

/-- Whether a code unit is the second half of a pair. -/
def isLow (unit : Nat) : Bool := 0xDC00 ≤ unit && unit < 0xE000

def join (high low : Nat) : Char := Char.ofNat (0x10000 + (high - 0xD800) * 1024 + (low - 0xDC00))

/-- Where the halves lie in plane 7. -/
def shift : Nat := 0x70000

/-- The character that stands for a code unit; a half stands for itself alone. -/
def ofUnit (unit : Nat) : Char := Char.ofNat (if isHigh unit || isLow unit then shift + unit else unit)

def unit? (c : Char) : Option Nat :=
  let unit := c.toNat - shift
  if isHigh unit || isLow unit then some unit else none

/-- Whether a character stands for half a pair. -/
def isHalf (c : Char) : Bool := (unit? c).isSome

/-- Whether no character of a text is half a pair, so that the text can be encoded. -/
def areWhole (chars : List Char) : Bool := !chars.any isHalf

end QueryHooks.Text.Half
