import QueryHooks.Text.Class
import QueryHooks.Text.Utf8

/-! Percent-encoding: reading it in reference fragments, and quoting texts with it. -/

namespace QueryHooks.Text.Percent

/-- The bytes of an ASCII text; `%` and two hexadecimal digits make one byte, any other `%` stands for itself. -/
def bytes : List Char → List UInt8
  | [] => []
  | '%' :: high :: low :: rest =>
      match hexValue? high, hexValue? low with
      | some h, some l => (h * 16 + l).toUInt8 :: bytes rest
      | _, _ => 0x25 :: bytes (high :: low :: rest)
  | c :: rest => c.toNat.toUInt8 :: bytes rest
termination_by chars => chars.length

/-- Decode each run of ASCII characters on its own; other characters stand for themselves. -/
def decodeRuns (run : List Char) : List Char → List Char
  | [] => Utf8.decodeLossy (bytes run.reverse)
  | c :: rest =>
      if isAscii c then decodeRuns (c :: run) rest
      else Utf8.decodeLossy (bytes run.reverse) ++ c :: decodeRuns [] rest

def decode (chars : List Char) : List Char := decodeRuns [] chars

def hexDigit (value : Nat) : Char :=
  if value < 10 then Char.ofNat (48 + value) else Char.ofNat (55 + value)

def encodeByte (byte : UInt8) : List Char :=
  ['%', hexDigit (byte.toNat / 16), hexDigit (byte.toNat % 16)]

/-- Characters that stand for themselves in every quotation. -/
def isUnreserved (c : Char) : Bool :=
  isAsciiUpper c || isAsciiLower c || isAsciiDigit c || c == '_' || c == '.' || c == '-' || c == '~'

def quoteByte (safe : List Char) (byte : UInt8) : List Char :=
  let c := Char.ofNat byte.toNat
  if isUnreserved c || safe.contains c then [c] else encodeByte byte

/-- A text with all its bytes quoted, except those of unreserved and of safe characters. -/
def quote (safe : List Char) (chars : List Char) : List Char := (Utf8.encode chars).flatMap (quoteByte safe)

/-- The quotation that writes a space as plus. -/
def quotePlus (safe : List Char) (chars : List Char) : List Char :=
  (quote (' ' :: safe) chars).map fun c => if c == ' ' then '+' else c

end QueryHooks.Text.Percent
