import ApiLint.Numeric.Decimal

/-!
# Dates and times

Calendar values of documents: a date, and a time of day on a date with an optional distance from
universal time. `DateTime.instant` places a time on one line, so that times in different zones can
be compared; `Date.text`, `DateTime.text` and `DateTime.isoText` are their written forms.
-/

namespace ApiLint

/-- A day of the Gregorian calendar. -/
structure Date where
  year : Nat
  month : Nat
  day : Nat
deriving DecidableEq, Inhabited

/-- A time of day on a date. The offset is its distance from universal time in seconds. -/
structure DateTime where
  date : Date
  hour : Nat
  minute : Nat
  second : Nat
  microsecond : Nat
  offset : Option Int
deriving DecidableEq, Inhabited

/-- Why numbers do not name a point of the calendar. -/
inductive CalendarFault
  | year (value : Nat)
  | month
  | day
  | hour
  | minute
  | second
  | offset (seconds : Int)
deriving DecidableEq

namespace Date

/-- Whether a year has a leap day. -/
def isLeap (year : Nat) : Bool :=
  year % 4 == 0 && (year % 100 != 0 || year % 400 == 0)

/-- The number of days of a month. -/
def monthLength (year month : Nat) : Nat :=
  match month with
  | 2 => if isLeap year then 29 else 28
  | 4 | 6 | 9 | 11 => 30
  | _ => 31

/-- The day that three numbers name; the year is checked first, then the month, then the day. -/
def ofNumbers (year month day : Nat) : Except CalendarFault Date :=
  if year < 1 ∨ 9999 < year then .error (.year year)
  else if month < 1 ∨ 12 < month then .error .month
  else if day < 1 ∨ monthLength year month < day then .error .day
  else .ok ⟨year, month, day⟩

/-- The number of days before a date, counted from the first day of year 1. -/
def ordinal (d : Date) : Nat :=
  let y := d.year - 1
  let months := ((List.range' 1 (d.month - 1)).map (monthLength d.year)).foldl (· + ·) 0
  y * 365 + y / 4 - y / 100 + y / 400 + months + (d.day - 1)

/-- Year, month and day with hyphens. -/
def text (d : Date) : String :=
  Decimal.padded 4 d.year ++ "-" ++ Decimal.padded 2 d.month ++ "-" ++ Decimal.padded 2 d.day

end Date

namespace DateTime

/-- The time that these numbers name. The offset has to be shorter than a day and is checked
first, then the date, then the time of day. -/
def ofNumbers (year month day hour minute second microsecond : Nat) (offset : Option Int) :
    Except CalendarFault DateTime := do
  if let some seconds := offset then
    if 86400 ≤ seconds.natAbs then throw (.offset seconds)
  let date ← Date.ofNumbers year month day
  if 23 < hour then throw .hour
  if 59 < minute then throw .minute
  if 59 < second then throw .second
  return ⟨date, hour, minute, second, microsecond, offset⟩

/-- Microseconds since the start of year 1, in the time's own zone. -/
def localInstant (t : DateTime) : Int :=
  (((t.date.ordinal * 24 + t.hour) * 60 + t.minute) * 60 + t.second : Nat) * 1000000 + t.microsecond

/-- Microseconds since the start of year 1 in universal time, for a time whose zone is known. -/
def instant? (t : DateTime) : Option Int :=
  t.offset.map fun seconds => t.localInstant - seconds * 1000000

/-- Sign, hours and minutes of an offset, and its seconds if there are any. -/
def offsetText (seconds : Int) : String :=
  let n := seconds.natAbs
  let sign := if seconds < 0 then "-" else "+"
  let rest := if n % 60 = 0 then "" else ":" ++ Decimal.padded 2 (n % 60)
  sign ++ Decimal.padded 2 (n / 3600) ++ ":" ++ Decimal.padded 2 (n / 60 % 60) ++ rest

/-- Date and time of day, with a separator between them; microseconds only if there are any. -/
def textWith (separator : String) (t : DateTime) : String :=
  let fraction := if t.microsecond = 0 then "" else "." ++ Decimal.padded 6 t.microsecond
  t.date.text ++ separator ++ Decimal.padded 2 t.hour ++ ":" ++ Decimal.padded 2 t.minute ++ ":" ++
    Decimal.padded 2 t.second ++ fraction ++ (t.offset.map offsetText).getD ""

/-- The text of a time: its date and time of day separated by a blank. -/
def text (t : DateTime) : String := t.textWith " "

/-- The ISO 8601 form of a time. -/
def isoText (t : DateTime) : String := t.textWith "T"

end DateTime

namespace Calendar

/-- A span of time by its days and seconds, the days rounded down. -/
def spanLiteral (seconds : Int) : String :=
  let days := seconds.fdiv 86400
  let rest := seconds.fmod 86400
  let parts :=
    (if days = 0 then [] else ["days=" ++ Decimal.ofInt days]) ++
      (if rest = 0 then [] else ["seconds=" ++ Decimal.ofInt rest])
  "datetime.timedelta(" ++ (if parts.isEmpty then "0" else ", ".intercalate parts) ++ ")"

end Calendar

/-- A date inside a larger text, by its numbers. -/
def Date.literal (d : Date) : String :=
  "datetime.date(" ++ ", ".intercalate ([d.year, d.month, d.day].map Decimal.ofNat) ++ ")"

/-- A time inside a larger text, by its numbers; seconds and microseconds only as far as there are
any, and universal time by its name. -/
def DateTime.literal (t : DateTime) : String :=
  let fine :=
    if t.microsecond ≠ 0 then [t.second, t.microsecond]
    else if t.second ≠ 0 then [t.second] else []
  let numbers := [t.date.year, t.date.month, t.date.day, t.hour, t.minute] ++ fine
  let zone := match t.offset with
    | none => []
    | some 0 => ["tzinfo=datetime.timezone.utc"]
    | some s => ["tzinfo=datetime.timezone(" ++ Calendar.spanLiteral s ++ ")"]
  "datetime.datetime(" ++ ", ".intercalate (numbers.map Decimal.ofNat ++ zone) ++ ")"

namespace CalendarFault

/-- What a report says about a point outside the calendar. -/
def message : CalendarFault → String
  | .year value => "year " ++ Decimal.ofNat value ++ " is out of range"
  | .month => "month must be in 1..12"
  | .day => "day is out of range for month"
  | .hour => "hour must be in 0..23"
  | .minute => "minute must be in 0..59"
  | .second => "second must be in 0..59"
  | .offset seconds =>
    "offset must be a timedelta strictly between -timedelta(hours=24) and " ++
      "timedelta(hours=24), not " ++ Calendar.spanLiteral seconds ++ "."

end CalendarFault

end ApiLint
