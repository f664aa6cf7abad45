/-! Dates and timestamps of the proleptic Gregorian calendar, years 1 to 9999, and their written forms. -/

namespace QueryHooks.Calendar

def isLeap (year : Nat) : Bool := year % 4 == 0 && (year % 100 != 0 || year % 400 == 0)

def daysInMonth (year month : Nat) : Nat :=
  if month == 2 then if isLeap year then 29 else 28
  else if month == 4 || month == 6 || month == 9 || month == 11 then 30
  else 31

structure Date where
  year : Nat
  month : Nat
  day : Nat
deriving DecidableEq, Repr

def Date.isValid (d : Date) : Bool :=
  1 ≤ d.year && d.year ≤ 9999 && 1 ≤ d.month && d.month ≤ 12 &&
    1 ≤ d.day && d.day ≤ daysInMonth d.year d.month

/-- A date and a time of day; `offset` is its distance from universal time in minutes, if known. -/
structure Timestamp where
  date : Date
  hour : Nat
  minute : Nat
  second : Nat
  micro : Nat
  offset : Option Int
deriving DecidableEq, Repr

/-- A distance from universal time is less than a day. -/
def isOffset (minutes : Int) : Bool := minutes.natAbs < 1440

def Timestamp.isValid (t : Timestamp) : Bool :=
  t.date.isValid && t.hour < 24 && t.minute < 60 && t.second < 60 && t.micro < 1000000 &&
    (match t.offset with
      | none => true
      | some minutes => isOffset minutes)

def Date.ordinal (d : Date) : Nat :=
  let past := d.year - 1
  let months := (List.range (d.month - 1)).foldl (fun days m => days + daysInMonth d.year (m + 1)) 0
  past * 365 + past / 4 - past / 100 + past / 400 + months + d.day

/-- Minutes of universal time. -/
def Timestamp.instant (t : Timestamp) (offset : Int) : Int :=
  Int.ofNat ((t.date.ordinal * 24 + t.hour) * 60 + t.minute) - offset

/-- Timestamps that denote the same moment; one with a known offset never equals one without. -/
def Timestamp.sameMoment (a b : Timestamp) : Bool :=
  match a.offset, b.offset with
  | none, none => a == b
  | some x, some y => a.instant x == b.instant y && a.second == b.second && a.micro == b.micro
  | _, _ => false

/-- A number in decimal with leading zeros up to a width. -/
def padded (width n : Nat) : String :=
  let digits := Nat.toDigits 10 n
  String.ofList (List.replicate (width - digits.length) '0' ++ digits)

/-- `2024-01-15`. -/
def Date.text (d : Date) : String :=
  padded 4 d.year ++ "-" ++ padded 2 d.month ++ "-" ++ padded 2 d.day

/-- `+02:30`. -/
def offsetText (minutes : Int) : String :=
  (if minutes < 0 then "-" else "+") ++ padded 2 (minutes.natAbs / 60) ++ ":" ++ padded 2 (minutes.natAbs % 60)

/-- `2024-01-15T10:00:00.500000+02:30` with a separator of choice between date and time. -/
def Timestamp.text (separator : String) (t : Timestamp) : String :=
  t.date.text ++ separator ++ padded 2 t.hour ++ ":" ++ padded 2 t.minute ++ ":" ++ padded 2 t.second ++
    (if t.micro == 0 then "" else "." ++ padded 6 t.micro) ++
    (match t.offset with
      | none => ""
      | some minutes => offsetText minutes)

private def call (name : String) (arguments : List String) : String :=
  name ++ "(" ++ ", ".intercalate arguments ++ ")"

private def dateArguments (d : Date) : List String := [toString d.year, toString d.month, toString d.day]

def Date.inspect (d : Date) : String := call "datetime.date" (dateArguments d)

/-- The inspected form of an offset: whole days, then seconds within the day. -/
def inspectOffset (minutes : Int) : String :=
  if minutes == 0 then "datetime.timezone.utc"
  else
    let span :=
      if minutes < 0 then ["days=-1", "seconds=" ++ toString (86400 + minutes * 60)]
      else ["seconds=" ++ toString (minutes * 60)]
    call "datetime.timezone" [call "datetime.timedelta" span]

/-- The inspected form of a timestamp: trailing zero seconds and microseconds are left out. -/
def Timestamp.inspect (t : Timestamp) : String :=
  let clock :=
    if t.micro != 0 then [toString t.second, toString t.micro]
    else if t.second != 0 then [toString t.second]
    else []
  let zone := match t.offset with
    | none => []
    | some minutes => ["tzinfo=" ++ inspectOffset minutes]
  call "datetime.datetime" (dateArguments t.date ++ [toString t.hour, toString t.minute] ++ clock ++ zone)

end QueryHooks.Calendar
