import QueryHooks.Text.Class
import QueryHooks.Text.Half

/-! Quoted text: single quotes unless the text holds a single quote and no double quote, escapes for what cannot be printed. -/

namespace QueryHooks.Text.Quoted

def hexDigit (value : Nat) : Char :=
  if value < 10 then Char.ofNat (48 + value) else Char.ofNat (87 + value)

/-- The lowest `width` hexadecimal digits of a number, most significant first. -/
def hexDigits : Nat → Nat → List Char
  | 0, _ => []
  | width + 1, value => hexDigits width (value / 16) ++ [hexDigit (value % 16)]

/-- The quote that a text is written in. -/
def quoteFor (chars : List Char) : Char :=
  if chars.contains '\x27' && !chars.contains '"' then '"' else '\x27'

/-- A code point by the shortest of the three numeric escapes. -/
def numeric (point : Nat) : List Char :=
  if point < 256 then '\\' :: 'x' :: hexDigits 2 point
  else if point < 65536 then '\\' :: 'u' :: hexDigits 4 point
  else '\\' :: 'U' :: hexDigits 8 point

/-- The written form of one character between quotes. Half a surrogate pair has the escape that names it. -/
def escape (quote c : Char) : List Char :=
  if c == quote || c == '\\' then ['\\', c]
  else if c == '\n' then ['\\', 'n']
  else if c == '\r' then ['\\', 'r']
  else if c == '\t' then ['\\', 't']
  else if isPrintable c then [c]
  else numeric ((Half.unit? c).getD c.toNat)

def encode (chars : List Char) : List Char :=
  quoteFor chars :: chars.flatMap (escape (quoteFor chars)) ++ [quoteFor chars]

def escapeByte (quote : Char) (byte : UInt8) : List Char :=
  let c := Char.ofNat byte.toNat
  if byte < 128 then escape quote c else '\\' :: 'x' :: hexDigits 2 byte.toNat

/-- Bytes are written as text with a leading `b`. -/
def encodeBytes (bytes : List UInt8) : List Char :=
  let quote := quoteFor (bytes.map fun byte => Char.ofNat byte.toNat)
  'b' :: quote :: bytes.flatMap (escapeByte quote) ++ [quote]

end QueryHooks.Text.Quoted
