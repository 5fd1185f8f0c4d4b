import ApiLint.Value

/-!
# Timestamps

A date, or a date with a time of day and perhaps a zone. `Timestamp.parse?` recognises the form, and
`Timestamp.toScalar` checks the numbers.
-/

namespace ApiLint.Yaml

/-- The time of day of a timestamp. -/
structure ClockTime where
  hour : List Char
  minute : List Char
  second : List Char
  fraction : List Char
  /-- Sign, hours and minutes of the zone; the minutes may be missing. -/
  zone : Option (Bool × List Char × List Char)

/-- The digits of a timestamp. -/
structure Timestamp where
  year : List Char
  month : List Char
  day : List Char
  clock : Option ClockTime

namespace Timestamp

/-- As many digits as there are, up to `most`, if they are at least `least`. -/
def digits (least most : Nat) (s : List Char) : Option (List Char × List Char) :=
  let run := (s.take most).takeWhile Decimal.isDigit
  if run.length < least then none else some (run, s.drop run.length)

/-- What follows a character that has to stand here. -/
def expect (x : Char) : List Char → Option (List Char)
  | c :: rest => if c = x then some rest else none
  | [] => none

/-- Blank or tab. -/
def isGap (c : Char) : Bool := c == ' ' || c == '\t'

/-- A zone that makes up the rest of a timestamp. -/
def zone? (s : List Char) : Option (Option (Bool × List Char × List Char)) :=
  match s.dropWhile isGap with
  | [] => if s.isEmpty then some none else none
  | ['Z'] => some (some (false, ['0'], []))
  | sign :: rest => do
    if sign ≠ '+' ∧ sign ≠ '-' then none
    let (hours, rest) ← digits 1 2 rest
    match rest with
    | [] => some (some (sign == '-', hours, []))
    | ':' :: rest =>
      let (minutes, rest) ← digits 2 2 rest
      if rest.isEmpty then some (some (sign == '-', hours, minutes)) else none
    | _ => none

/-- A time of day that makes up the rest of a timestamp, from its hour on. -/
def clock? (s : List Char) : Option ClockTime := do
  let (hour, rest) ← digits 1 2 s
  let (minute, rest) ← digits 2 2 (← expect ':' rest)
  let (second, rest) ← digits 2 2 (← expect ':' rest)
  let (fraction, rest) := match rest with
    | '.' :: rest => rest.span Decimal.isDigit
    | rest => ([], rest)
  some ⟨hour, minute, second, fraction, ← zone? rest⟩

/-- The timestamp that these characters make up. -/
def parse? (s : List Char) : Option Timestamp := do
  let (year, rest) ← digits 4 4 s
  let (month, rest) ← digits 1 2 (← expect '-' rest)
  let (day, rest) ← digits 1 2 (← expect '-' rest)
  match rest with
  | [] => some ⟨year, month, day, none⟩
  | c :: more =>
    if c = 'T' ∨ c = 't' then some ⟨year, month, day, some (← clock? more)⟩
    else if isGap c then some ⟨year, month, day, some (← clock? (more.dropWhile isGap))⟩
    else none

/-- Whether a plain text of this form is taken for a timestamp: one without a time of day has to
have months and days of two digits. -/
def isImplicit (t : Timestamp) : Bool :=
  t.clock.isSome || (t.month.length == 2 && t.day.length == 2)

/-- The date or time that a timestamp names. Fractions are cut to microseconds. -/
def toScalar (t : Timestamp) : Except CalendarFault Scalar := do
  let number := Decimal.value
  match t.clock with
  | none => return .date (← Date.ofNumbers (number t.year) (number t.month) (number t.day))
  | some clock =>
    let fraction := clock.fraction.take 6
    let microsecond := number (fraction ++ List.replicate (6 - fraction.length) '0')
    let offset := clock.zone.map fun (negative, hours, minutes) =>
      let seconds : Int := (number hours * 3600 + number minutes * 60 : Nat)
      if negative then -seconds else seconds
    return .time (← DateTime.ofNumbers (number t.year) (number t.month) (number t.day)
      (number clock.hour) (number clock.minute) (number clock.second) microsecond offset)

end Timestamp

end ApiLint.Yaml
