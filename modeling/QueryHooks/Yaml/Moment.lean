import QueryHooks.Calendar
import QueryHooks.Text.Class

/-! Dates and timestamps as YAML texts. -/

namespace QueryHooks.Yaml

open QueryHooks.Text (isAsciiDigit)

namespace Moment

private def natOf (digits : List Char) : Nat := digits.foldl (fun n c => n * 10 + (c.toNat - 48)) 0

/-- Between `least` and `most` digits, as many as there are. -/
def digits? (least most : Nat) (chars : List Char) : Option (List Char × List Char) :=
  let found := (chars.take most).takeWhile isAsciiDigit
  if found.length < least then none else some (found, chars.drop found.length)

private def number? (least most : Nat) (chars : List Char) : Option (Nat × List Char) :=
  (digits? least most chars).map fun (digits, rest) => (natOf digits, rest)

private def mark? (mark : Char) : List Char → Option (List Char)
  | c :: rest => if c == mark then some rest else none
  | [] => none

private def isBlank (c : Char) : Bool := c == ' ' || c == '\t'

/-- Six digits of a fraction of a second; missing ones are zeros. -/
def micros (digits : List Char) : Nat :=
  let kept := digits.take 6
  natOf (kept ++ List.replicate (6 - kept.length) '0')

/-- The distance from universal time: nothing, `Z`, or hours and perhaps minutes with a sign. -/
def zone? (chars : List Char) : Option (Option Int) :=
  if chars.isEmpty then some none
  else
    match chars.dropWhile isBlank with
    | ['Z'] => some (some 0)
    | mark :: rest =>
        if mark == '+' || mark == '-' then do
          let (hours, rest) ← number? 1 2 rest
          let minutes ←
            if rest.isEmpty then some 0
            else do
              let rest ← mark? ':' rest
              let (minutes, rest) ← number? 2 2 rest
              if rest.isEmpty then some minutes else none
          let distance := Int.ofNat (hours * 60 + minutes)
          return some (if mark == '-' then -distance else distance)
        else none
    | [] => none

/-- The time of day after a date. -/
def clock? (date : Calendar.Date) (chars : List Char) : Option Calendar.Timestamp := do
  let body ← match chars with
    | 'T' :: rest => some rest
    | 't' :: rest => some rest
    | c :: rest => if isBlank c then some (rest.dropWhile isBlank) else none
    | [] => none
  let (hour, rest) ← number? 1 2 body
  let rest ← mark? ':' rest
  let (minute, rest) ← number? 2 2 rest
  let rest ← mark? ':' rest
  let (second, rest) ← number? 2 2 rest
  let (fraction, rest) := match rest with
    | '.' :: after => after.span isAsciiDigit
    | _ => ([], rest)
  let offset ← zone? rest
  return ⟨date, hour, minute, second, micros fraction, offset⟩

/-- What the fields of a text say, whether or not there is such a day or hour. -/
inductive Reading
  | date (d : Calendar.Date) (padded : Bool)
  | timestamp (t : Calendar.Timestamp)

def read? (chars : List Char) : Option Reading := do
  let (year, rest) ← number? 4 4 chars
  let rest ← mark? '-' rest
  let (month, rest) ← digits? 1 2 rest
  let rest ← mark? '-' rest
  let (day, rest) ← digits? 1 2 rest
  let date : Calendar.Date := ⟨year, natOf month, natOf day⟩
  if rest.isEmpty then return .date date (month.length == 2 && day.length == 2)
  else return .timestamp (← clock? date rest)

end Moment

end QueryHooks.Yaml
