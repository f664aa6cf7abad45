import QueryHooks.Decimal.Reading
import QueryHooks.Text.Half
import QueryHooks.Value

/-! What can be wrong with a JSON text, and where. -/

namespace QueryHooks.Json

inductive Problem
  | byteOrderMark
  | missingValue
  | missingName
  | missingColon
  | missingComma
  | extraData
  | unterminatedString
  | controlCharacter
  | badEscape
  | badUnicodeEscape
deriving DecidableEq, Repr

def Problem.message : Problem → String
  | .byteOrderMark => "Unexpected UTF-8 BOM (decode using utf-8-sig)"
  | .missingValue => "Expecting value"
  | .missingName => "Expecting property name enclosed in double quotes"
  | .missingColon => "Expecting ':' delimiter"
  | .missingComma => "Expecting ',' delimiter"
  | .extraData => "Extra data"
  | .unterminatedString => "Unterminated string starting at"
  | .controlCharacter => "Invalid control character at"
  | .badEscape => "Invalid \\escape"
  | .badUnicodeEscape => "Invalid \\uXXXX escape"

/-- Why a text has no value. A numeral may be well-formed and too long to read, and a text nested too deep. -/
inductive Fault
  | malformed (problem : Problem) (position : Nat)
  | longNumeral (digits : Nat)
  | tooDeep
deriving DecidableEq, Repr

/-- The line and the column of a position, both counted from one. -/
def location (chars : List Char) (position : Nat) : Nat × Nat :=
  let before := chars.take position
  (before.count '\n' + 1, (before.reverse.takeWhile (· != '\n')).length + 1)

def Problem.messageAt (chars : List Char) (position : Nat) (problem : Problem) : String :=
  let (line, column) := location chars position
  s!"{problem.message}: line {line} column {column} (char {position})"

/-- The message of a fault in a text. There is none for nesting too deep. -/
def Fault.message? (chars : List Char) : Fault → Option String
  | .malformed problem position => some (problem.messageAt chars position)
  | .longNumeral digits =>
      some (s!"Exceeds the limit (4300 digits) for integer string conversion: value has {digits} digits; " ++
        "use sys.set_int_max_str_digits() to increase the limit")
  | .tooDeep => none

/-!
Reading JSON. Each reader takes the position and the text that is left, and gives back what it read, the
position after it and the text after it.
-/

open QueryHooks.Text (isAsciiDigit hexValue?)
open QueryHooks.Decimal (Binary64)

structure Read (α : Type) where
  value : α
  position : Nat
  rest : List Char

def isSpace (c : Char) : Bool := c == ' ' || c == '\t' || c == '\n' || c == '\r'

def skip (position : Nat) : List Char → Nat × List Char
  | [] => (position, [])
  | c :: rest => if isSpace c then skip (position + 1) rest else (position, c :: rest)

def codeUnit? (a b c d : Char) : Option Nat := do
  let a ← hexValue? a
  let b ← hexValue? b
  let c ← hexValue? c
  let d ← hexValue? d
  return ((a * 16 + b) * 16 + c) * 16 + d

/-- The character that a letter after a backslash stands for. -/
def escaped? : Char → Option Char
  | '"' => some '"'
  | '\\' => some '\\'
  | '/' => some '/'
  | 'b' => some '\x08'
  | 'f' => some '\x0c'
  | 'n' => some '\n'
  | 'r' => some '\r'
  | 't' => some '\t'
  | _ => none

/-- The rest of a string whose opening quote is at `start`, with the characters read so far, last first. -/
def string (start : Nat) (seen : List Char) (position : Nat) (chars : List Char) : Except Fault (Read String) :=
  match chars with
  | [] => .error (.malformed .unterminatedString start)
  | '"' :: rest => .ok ⟨String.ofList seen.reverse, position + 1, rest⟩
  | '\\' :: 'u' :: a :: b :: c :: d :: e :: rest =>
      match codeUnit? a b c d with
      | none => .error (.malformed .badUnicodeEscape (position + 1))
      | some unit =>
          if Text.Half.isHigh unit then
            match tail : e :: rest with
            | '\\' :: 'u' :: f :: g :: h :: i :: next :: more =>
                match codeUnit? f g h i with
                | none => .error (.malformed .badUnicodeEscape (position + 7))
                | some second =>
                    if Text.Half.isLow second then
                      string start (Text.Half.join unit second :: seen) (position + 12) (next :: more)
                    else string start (Text.Half.ofUnit unit :: seen) (position + 6) (e :: rest)
            | _ => string start (Text.Half.ofUnit unit :: seen) (position + 6) (e :: rest)
          else string start (Text.Half.ofUnit unit :: seen) (position + 6) (e :: rest)
  | '\\' :: 'u' :: _ => .error (.malformed .badUnicodeEscape (position + 1))
  | '\\' :: c :: rest =>
      match escaped? c with
      | none => .error (.malformed .badEscape position)
      | some real => string start (real :: seen) (position + 2) rest
  | ['\\'] => .error (.malformed .unterminatedString start)
  | c :: rest =>
      if c < ' ' then .error (.malformed .controlCharacter position)
      else string start (c :: seen) (position + 1) rest
termination_by chars.length
decreasing_by
  all_goals simp only [List.length_cons]
  any_goals have := congrArg List.length tail; simp only [List.length_cons] at this
  all_goals omega

structure Numeral where
  negative : Bool
  whole : List Char
  fraction : List Char
  power : Option (Bool × List Char)
  /-- How many characters it is written with. -/
  size : Nat

def natOf (digits : List Char) : Nat := digits.foldl (fun n c => n * 10 + (c.toNat - 48)) 0

def Numeral.value (n : Numeral) : Except Fault Value :=
  if n.fraction.isEmpty && n.power.isNone then
    if Text.Integer.maxDecimalDigits < n.whole.length then .error (.longNumeral n.whole.length)
    else .ok (.int (if n.negative then -Int.ofNat (natOf n.whole) else Int.ofNat (natOf n.whole)))
  else
    let power : Int := match n.power with
      | none => 0
      | some (true, digits) => -Int.ofNat (natOf digits)
      | some (false, digits) => Int.ofNat (natOf digits)
    let digits := n.whole ++ n.fraction
    .ok (.float (Binary64.ofDecimal n.negative (natOf digits) digits.length
      (power - Int.ofNat n.fraction.length)))

def digitsOf (chars : List Char) : List Char × List Char := chars.span isAsciiDigit

/-- The exponent that may follow a mantissa, and how many characters it takes up. -/
def powerOf (chars : List Char) : Option (Bool × List Char) × Nat × List Char :=
  match chars with
  | e :: rest =>
      if e == 'e' || e == 'E' then
        let (negative, signed, body) := match rest with
          | '-' :: body => (true, 1, body)
          | '+' :: body => (false, 1, body)
          | body => (false, 0, body)
        match digitsOf body with
        | ([], _) => (none, 0, chars)
        | (digits, after) => (some (negative, digits), 1 + signed + digits.length, after)
      else (none, 0, chars)
  | [] => (none, 0, [])

/-- A numeral from the start of a text. No digit may follow a leading zero. -/
def numeral? (chars : List Char) : Option (Numeral × List Char) :=
  let (negative, body) := match chars with
    | '-' :: body => (true, body)
    | body => (false, body)
  let (whole, rest) := match body with
    | '0' :: rest => (['0'], rest)
    | _ => digitsOf body
  if whole.isEmpty then none
  else
    let (fraction, point, rest) := match rest with
      | '.' :: after =>
          match digitsOf after with
          | ([], _) => ([], 0, rest)
          | (digits, after) => (digits, 1, after)
      | _ => ([], 0, rest)
    let (power, width, rest) := powerOf rest
    let size := (if negative then 1 else 0) + whole.length + point + fraction.length + width
    some (⟨negative, whole, fraction, power, size⟩, rest)

def word? : List Char → Option (Value × Nat × List Char)
  | 'n' :: 'u' :: 'l' :: 'l' :: rest => some (.null, 4, rest)
  | 't' :: 'r' :: 'u' :: 'e' :: rest => some (.bool true, 4, rest)
  | 'f' :: 'a' :: 'l' :: 's' :: 'e' :: rest => some (.bool false, 5, rest)
  | 'N' :: 'a' :: 'N' :: rest => some (.float .nan, 3, rest)
  | 'I' :: 'n' :: 'f' :: 'i' :: 'n' :: 'i' :: 't' :: 'y' :: rest => some (.float (.infinite false), 8, rest)
  | '-' :: 'I' :: 'n' :: 'f' :: 'i' :: 'n' :: 'i' :: 't' :: 'y' :: rest =>
      some (.float (.infinite true), 9, rest)
  | _ => none

def plain (position : Nat) (chars : List Char) : Except Fault (Read Value) :=
  match word? chars with
  | some (v, count, rest) => .ok ⟨v, position + count, rest⟩
  | none =>
      match numeral? chars with
      | none => .error (.malformed .missingValue position)
      | some (n, rest) => do
          let v ← n.value
          return ⟨v, position + n.size, rest⟩

/-- How many collections may lie inside each other. -/
def maxDepth : Nat := 985

mutual

/-- A value in `depth` collections, nested at most `fuel` deep and wide. -/
def value (fuel depth : Nat) (position : Nat) (chars : List Char) : Except Fault (Read Value) :=
  match fuel with
  | 0 => .error (.malformed .missingValue position)
  | fuel + 1 =>
      match chars with
      | '"' :: rest => do
          let r ← string position [] (position + 1) rest
          return ⟨.text r.value, r.position, r.rest⟩
      | '\x7b' :: rest =>
          if maxDepth ≤ depth then .error .tooDeep else
          match skip (position + 1) rest with
          | (next, '\x7d' :: rest) => .ok ⟨.map [], next + 1, rest⟩
          | (next, rest) => do
              let r ← members fuel (depth + 1) next rest
              return ⟨.map (Value.ofPairs r.value), r.position, r.rest⟩
      | '[' :: rest =>
          if maxDepth ≤ depth then .error .tooDeep else
          match skip (position + 1) rest with
          | (next, ']' :: rest) => .ok ⟨.list [], next + 1, rest⟩
          | (next, rest) => do
              let r ← elements fuel (depth + 1) next rest
              return ⟨.list r.value, r.position, r.rest⟩
      | _ => plain position chars

def members (fuel depth : Nat) (position : Nat) (chars : List Char) : Except Fault (Read (List (Value × Value))) :=
  match fuel with
  | 0 => .error (.malformed .missingName position)
  | fuel + 1 =>
      match chars with
      | '"' :: rest => do
          let name ← string position [] (position + 1) rest
          match skip name.position name.rest with
          | (next, ':' :: rest) =>
              let (next, rest) := skip (next + 1) rest
              let v ← value fuel depth next rest
              let entry := (Value.text name.value, v.value)
              match skip v.position v.rest with
              | (next, '\x7d' :: rest) => return ⟨[entry], next + 1, rest⟩
              | (next, ',' :: rest) =>
                  let (next, rest) := skip (next + 1) rest
                  let r ← members fuel depth next rest
                  return ⟨entry :: r.value, r.position, r.rest⟩
              | (next, _) => .error (.malformed .missingComma next)
          | (next, _) => .error (.malformed .missingColon next)
      | _ => .error (.malformed .missingName position)

def elements (fuel depth : Nat) (position : Nat) (chars : List Char) : Except Fault (Read (List Value)) :=
  match fuel with
  | 0 => .error (.malformed .missingValue position)
  | fuel + 1 => do
      let v ← value fuel depth position chars
      match skip v.position v.rest with
      | (next, ']' :: rest) => return ⟨[v.value], next + 1, rest⟩
      | (next, ',' :: rest) =>
          let (next, rest) := skip (next + 1) rest
          let r ← elements fuel depth next rest
          return ⟨v.value :: r.value, r.position, r.rest⟩
      | (next, _) => .error (.malformed .missingComma next)

end

def read (chars : List Char) : Except Fault Value :=
  match chars with
  | '\uFEFF' :: _ => .error (.malformed .byteOrderMark 0)
  | _ => do
      let (start, body) := skip 0 chars
      let r ← value (chars.length + 1) 0 start body
      match skip r.position r.rest with
      | (_, []) => return r.value
      | (next, _) => .error (.malformed .extraData next)

end QueryHooks.Json
