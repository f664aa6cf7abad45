import QueryHooks.Text.Half
import QueryHooks.Text.Letters
import QueryHooks.Text.Table.CodePage
import QueryHooks.Text.Utf8

/-! Character sets by name, and the text that bytes stand for in each. What stands for no character reads as U+FFFD. -/

namespace QueryHooks.Text

/-- The order of the bytes of a unit. -/
inductive ByteOrder
  | bigFirst
  | smallFirst
deriving DecidableEq, Repr

inductive Charset
  /-- Bytes below a limit stand for the first characters. -/
  | direct (limit : Nat)
  | page (rows : List String)
  | utf8
  /-- UTF-8, in front of which a byte order mark can stand. -/
  | utf8Marked
  | units16 (order : ByteOrder)
  | units32 (order : ByteOrder)
  /-- Units of some bytes, of which the first tells their order. -/
  | markedUnits (size : Nat)
  /-- An encoding of something else than text. -/
  | unfit
deriving DecidableEq, Repr

namespace Charset

/-- The names of the character sets that are no code pages. -/
def named : List (List String × Charset) := [
  (["utf_8", "cp65001", "u8", "utf", "utf8", "utf8_ucs2", "utf8_ucs4"], .utf8),
  (["utf_8_sig"], .utf8Marked),
  (["ascii", "646", "ansi_x3.4_1968", "ansi_x3.4_1986", "ansi_x3_4_1968", "cp367", "csascii", "ibm367",
    "iso646_us", "iso_646.irv_1991", "iso_ir_6", "us", "us_ascii"], .direct 128),
  (["latin_1", "8859", "charmap", "cp819", "csisolatin1", "ibm819", "iso8859", "iso8859_1", "iso_8859_1",
    "iso_8859_1_1987", "iso_ir_100", "l1", "latin", "latin1"], .direct 256),
  (["utf_16_be", "unicodebigunmarked", "utf_16be"], .units16 .bigFirst),
  (["utf_16_le", "unicodelittleunmarked", "utf_16le"], .units16 .smallFirst),
  (["utf_32_be", "utf_32be"], .units32 .bigFirst),
  (["utf_32_le", "utf_32le"], .units32 .smallFirst),
  (["utf_16", "u16", "utf16"], .markedUnits 2),
  (["utf_32", "u32", "utf32"], .markedUnits 4),
  (["base64_codec", "base64", "base_64"], .unfit),
  (["bz2_codec", "bz2"], .unfit),
  (["hex_codec", "hex"], .unfit),
  (["idna"], .unfit),
  (["quopri_codec", "quopri", "quoted_printable", "quotedprintable"], .unfit),
  (["rot_13", "rot13"], .unfit),
  (["undefined"], .unfit),
  (["uu_codec", "uu"], .unfit),
  (["zlib_codec", "zip", "zlib"], .unfit)]

/-- The runs of letters, digits and points of a name, with underscores between them. -/
def normalName (chars : List Char) : List Char :=
  let isPart (c : Char) : Bool := isAsciiLower c || isAsciiUpper c || isAsciiDigit c || c == '.'
  let runs := (chars.splitBy fun a b => isPart a == isPart b).filter fun run => run.any isPart
  ['_'].intercalate runs

/-- Whether a normal name is among the names of a character set. In all but the first, underscores may be points. -/
def isAmong (name : List Char) (names : List String) : Bool :=
  let plain := name.map fun c => if c == '.' then '_' else c
  names.contains (String.ofList name) || names.tail.contains (String.ofList plain)

def named? (chars : List Char) : Option Charset :=
  let name := normalName (lower chars)
  match named.find? fun entry => isAmong name entry.1 with
  | some (_, charset) => some charset
  | none => (Table.codePages.find? fun entry => isAmong name entry.1).map fun entry => .page entry.2

/-- What stands for no character. -/
def replacement : Char := '\uFFFD'

private def hexNumber (digits : List Char) : Nat :=
  digits.foldl (fun value c => value * 16 + (hexValue? c).getD 0) 0

def rowChars : List Char → List Char
  | a :: b :: c :: d :: rest =>
      let point := hexNumber [a, b, c, d]
      (if point == 0xFFFE then replacement else Char.ofNat point) :: rowChars rest
  | _ => []

def pageChars (rows : List String) : Array Char :=
  let listed := rows.flatMap fun row => rowChars row.toList
  (((List.range (256 - listed.length)).map Char.ofNat) ++ listed).toArray

def unitOf (order : ByteOrder) (bytes : List UInt8) : Nat :=
  let inOrder := match order with
    | .bigFirst => bytes
    | .smallFirst => bytes.reverse
  inOrder.foldl (fun value byte => value * 256 + byte.toNat) 0

/-- The text of units of two bytes. Halves of a pair make one character. -/
def decode16 (order : ByteOrder) : List UInt8 → List Char
  | a :: b :: c :: d :: rest =>
      let unit := unitOf order [a, b]
      let next := unitOf order [c, d]
      if Half.isHigh unit && Half.isLow next then Half.join unit next :: decode16 order rest
      else (if Half.isHigh unit || Half.isLow unit then replacement else Char.ofNat unit) ::
        decode16 order (c :: d :: rest)
  | a :: b :: rest =>
      let unit := unitOf order [a, b]
      if Half.isHigh unit then [replacement]
      else (if Half.isLow unit then replacement else Char.ofNat unit) :: rest.map fun _ => replacement
  | [_] => [replacement]
  | [] => []

/-- The text of units of four bytes. -/
def decode32 (order : ByteOrder) : List UInt8 → List Char
  | a :: b :: c :: d :: rest =>
      let unit := unitOf order [a, b, c, d]
      (if unit.isValidChar then Char.ofNat unit else replacement) :: decode32 order rest
  | [] => []
  | _ => [replacement]

def decode? (charset : Charset) (bytes : List UInt8) : Option (List Char) :=
  match charset with
  | .direct limit =>
      some (bytes.map fun byte => if byte.toNat < limit then Char.ofNat byte.toNat else replacement)
  | .page rows =>
      let chars := pageChars rows
      some (bytes.map fun byte => chars[byte.toNat]?.getD replacement)
  | .utf8 => some (Utf8.decodeLossy bytes)
  | .utf8Marked =>
      match bytes with
      | 0xEF :: 0xBB :: 0xBF :: rest => some (Utf8.decodeLossy rest)
      | bytes => some (Utf8.decodeLossy bytes)
  | .units16 order => some (decode16 order bytes)
  | .units32 order => some (decode32 order bytes)
  | .markedUnits size => if bytes.length < size then some (bytes.take 1 |>.map fun _ => replacement) else none
  | .unfit => none

end Charset

end QueryHooks.Text
