import QueryHooks.Text.Table.Case
import QueryHooks.Text.Table.Letter
import QueryHooks.Text.Table.Number
import QueryHooks.Text.Table.Printable

/-! Character classes of Unicode 14. Below U+0080 each class is a short rule; above, a table of ranges. -/

namespace QueryHooks.Text

-- What holds of the characters of a text is decided on these; some libraries go through all characters.
section

variable {p : Char → Prop} [DecidablePred p]

instance (priority := 1100) decidableForallMemList (chars : List Char) : Decidable (∀ c ∈ chars, p c) :=
  List.decidableBAll p chars

instance (priority := 1100) decidableForallMemOption (c? : Option Char) : Decidable (∀ c ∈ c?, p c) :=
  Option.decidableForallMem c?

end

def inRanges (point : Nat) : List (Nat × Nat) → Bool
  | [] => false
  | (first, last) :: rest => (first ≤ point && point ≤ last) || inRanges point rest

/-- Membership of a code point in runs that hold every `step`-th point. -/
def inRuns (point : Nat) : List (Nat × Nat × Nat) → Bool
  | [] => false
  | (first, last, step) :: rest =>
      (first ≤ point && point ≤ last && (point - first) % step == 0) || inRuns point rest

def isAsciiUpper (c : Char) : Bool := 'A' ≤ c && c ≤ 'Z'

def isAsciiLower (c : Char) : Bool := 'a' ≤ c && c ≤ 'z'

def isAsciiDigit (c : Char) : Bool := '0' ≤ c && c ≤ '9'

/-- An ASCII letter, digit or hexadecimal digit class is decided by its code point alone. -/
def isAscii (c : Char) : Bool := c.toNat < 128

/-- General category Letter. -/
def isLetter (c : Char) : Bool :=
  if isAscii c then isAsciiUpper c || isAsciiLower c else inRanges c.toNat Table.letters

/-- Numeric type digit or decimal, superscripts included. -/
def isDigit (c : Char) : Bool :=
  if isAscii c then isAsciiDigit c else inRanges c.toNat Table.digits

/-- The property Uppercase, which some symbols have as well. -/
def isUpper (c : Char) : Bool :=
  if isAscii c then isAsciiUpper c else inRuns c.toNat Table.uppers

/-- The property Lowercase, which some symbols have as well. -/
def isLower (c : Char) : Bool :=
  if isAscii c then isAsciiLower c else inRuns c.toNat Table.lowers

/-- Letters that have case. -/
def isCased (c : Char) : Bool :=
  isUpper c || isLower c || (!isAscii c && inRanges c.toNat Table.titles)

/-- Characters that the search for a neighbouring cased letter passes over. -/
def isCaseIgnorable (c : Char) : Bool :=
  if isAscii c then c == '\x27' || c == '.' || c == ':' || c == '^' || c == '\x60'
  else inRanges c.toNat Table.ignorables

/-- Letters, characters with a numeric value, and the underscore. -/
def isWord (c : Char) : Bool :=
  if isAscii c then isAsciiUpper c || isAsciiLower c || isAsciiDigit c || c == '_'
  else inRanges c.toNat Table.letters || inRanges c.toNat Table.numerics

/-- Characters that stand for themselves in quoted text. -/
def isPrintable (c : Char) : Bool :=
  if isAscii c then ' ' ≤ c && c ≤ '~' else !inRanges c.toNat Table.unprintables

/-- White space in the sense of trimming: the separators and the control characters that end or indent a line. -/
def isBlank (c : Char) : Bool :=
  inRanges c.toNat [(9, 13), (28, 32), (133, 133), (160, 160), (5760, 5760), (8192, 8202),
    (8232, 8233), (8239, 8239), (8287, 8287), (12288, 12288)]

/-- Characters after which a new line starts. -/
def isLineBreak (c : Char) : Bool :=
  inRanges c.toNat [(10, 13), (28, 30), (133, 133), (8232, 8233)]

private def decimalAbove (point : Nat) : List Nat → Option Nat
  | [] => none
  | start :: rest =>
      if start ≤ point && point < start + 10 then some (point - start) else decimalAbove point rest

def decimalValue? (c : Char) : Option Nat :=
  if isAscii c then if isAsciiDigit c then some (c.toNat - 48) else none
  else decimalAbove c.toNat Table.zeros

def hexValue? (c : Char) : Option Nat :=
  if isAsciiDigit c then some (c.toNat - 48)
  else if 'a' ≤ c && c ≤ 'f' then some (c.toNat - 87)
  else if 'A' ≤ c && c ≤ 'F' then some (c.toNat - 55)
  else none

def trim (chars : List Char) : List Char :=
  ((chars.dropWhile isBlank).reverse.dropWhile isBlank).reverse

def isBlankText (text : String) : Bool := text.toList.all isBlank

end QueryHooks.Text
