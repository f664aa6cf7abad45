import QueryHooks.Decimal.Reading
import QueryHooks.Text.Lines

/-! Numbers as YAML texts: several bases, base sixty between colons, underscores anywhere. -/

namespace QueryHooks.Yaml.Number

open QueryHooks.Decimal (Binary64)
open QueryHooks.Text (isAsciiDigit hexValue?)

private def isDigitOrLow (c : Char) : Bool := isAsciiDigit c || c == '_'

private def dropSign (chars : List Char) : List Char := (Text.Integer.splitSign chars).2

/-- A part of a number in base sixty: one or two digits, below sixty. -/
def isSixtieth (chars : List Char) : Bool :=
  match chars with
  | [d] => isAsciiDigit d
  | [t, d] => '0' ≤ t && t ≤ '5' && isAsciiDigit d
  | _ => false

private def isDigitsFrom (isFirst : Char → Bool) (chars : List Char) : Bool :=
  match chars with
  | c :: rest => isFirst c && rest.all isDigitOrLow
  | [] => false

private def isNonZero (c : Char) : Bool := isAsciiDigit c && c != '0'

/-- Whether a text reads as an integer where no tag says so. -/
def looksInteger (chars : List Char) : Bool :=
  match dropSign chars with
  | ['0'] => true
  | '0' :: 'b' :: rest => !rest.isEmpty && rest.all fun c => c == '0' || c == '1' || c == '_'
  | '0' :: 'x' :: rest => !rest.isEmpty && rest.all fun c => (hexValue? c).isSome || c == '_'
  | '0' :: rest => rest.all fun c => ('0' ≤ c && c ≤ '7') || c == '_'
  | body =>
      match Text.splitOn ':' body with
      | first :: others => isDigitsFrom isNonZero first && others.all isSixtieth
      | [] => false

private def isPower (chars : List Char) : Bool :=
  match chars with
  | [] => true
  | e :: sign :: digits =>
      (e == 'e' || e == 'E') && (sign == '+' || sign == '-') && !digits.isEmpty && digits.all isAsciiDigit
  | _ => false

/-- Whether a text reads as a floating-point number where no tag says so. It needs a point. -/
def looksFloat (chars : List Char) : Bool :=
  let body := dropSign chars
  let (whole, rest) := body.span (· != '.')
  (match rest with
    | '.' :: fraction =>
        (isDigitsFrom isAsciiDigit whole && isPower (fraction.dropWhile isDigitOrLow)) ||
        (match Text.splitOn ':' whole with
          | first :: second :: others =>
              isDigitsFrom isAsciiDigit first && (second :: others).all isSixtieth && fraction.all isDigitOrLow
          | _ => false)
    | _ => false) ||
  (match chars with
    | '.' :: d :: rest => isAsciiDigit d && isPower (rest.dropWhile isDigitOrLow)
    | _ => false) ||
  ([".inf", ".Inf", ".INF"].contains (String.ofList body)) ||
  ([".nan", ".NaN", ".NAN"].contains (String.ofList chars))

/-- The value of digits in base sixty, most significant first. -/
def ofSixtieths (parts : List Int) : Int := parts.foldl (fun value part => value * 60 + part) 0

private def negateIf (negative : Bool) (n : Int) : Int := if negative then -n else n

private def withoutLows (chars : List Char) : List Char := chars.filter (· != '_')

def integer? (chars : List Char) : Option Int :=
  let chars := withoutLows chars
  let (negative, body) := Text.Integer.splitSign chars
  match body with
  | [] => none
  | ['0'] => some 0
  | '0' :: 'b' :: rest => (Text.Integer.read? 2 rest).map (negateIf negative)
  | '0' :: 'x' :: rest => (Text.Integer.read? 16 rest).map (negateIf negative)
  | '0' :: _ => (Text.Integer.read? 8 body).map (negateIf negative)
  | _ =>
      if body.contains ':' then
        ((Text.splitOn ':' body).mapM (Text.Integer.read? 10)).map fun parts =>
          negateIf negative (ofSixtieths parts)
      else (Text.Integer.read? 10 body).map (negateIf negative)

/-- The value of digits in base sixty, least significant first; the powers of sixty must be numbers themselves. -/
def sumSixtieths (base : Nat) (sum : Binary64) : List Binary64 → Option Binary64
  | [] => some sum
  | digit :: more =>
      match Binary64.ofInt (Int.ofNat base) with
      | .infinite _ => none
      | weight => sumSixtieths (base * 60) (sum.add (digit.mul weight)) more

/-- A floating-point number without its sign, in lower case. -/
def unsignedFloat? (chars : List Char) : Option Binary64 :=
  match String.ofList chars with
  | "" => none
  | ".inf" => some (.infinite false)
  | ".nan" => some .nan
  | _ =>
      if chars.contains ':' then do
        let parts ← (Text.splitOn ':' chars).mapM Decimal.Reading.read?
        sumSixtieths 1 (.zero false) parts.reverse
      else Decimal.Reading.read? chars

def float? (chars : List Char) : Option Binary64 :=
  let (negative, body) := Text.Integer.splitSign ((withoutLows chars).map Char.toLower)
  (unsignedFloat? body).map fun number => if negative then number.neg else number

end QueryHooks.Yaml.Number
