import OperatorCore.Number.Places

/-!
# Civil time

Points in time as dates and times of day at an offset from universal time, with a resolution of a
microsecond. Only what is needed to check a timestamp and to write one. The calendar has the years 1
to 9999; the clocks of a system go on in both directions.
-/

namespace OperatorCore

/-- A date, a time of day, and the offset of its clock in minutes. -/
structure CivilTime where
  year : Int
  month : Nat
  day : Nat
  hour : Nat
  minute : Nat
  second : Nat
  microsecond : Nat
  offset : Int
deriving DecidableEq

namespace CivilTime

def isLeap (year : Int) : Bool := year % 4 = 0 && (year % 100 != 0 || year % 400 = 0)

def daysInMonth (year : Int) (month : Nat) : Nat :=
  match month with
  | 2 => if isLeap year then 29 else 28
  | 4 | 6 | 9 | 11 => 30
  | _ => 31

/-- The calendar has the year. -/
def hasYear (year : Int) : Bool := 1 ≤ year && year ≤ 9999

/-- All parts are within their ranges, and the offset is less than a day. -/
def valid (t : CivilTime) : Bool :=
  hasYear t.year && 1 ≤ t.month && t.month ≤ 12
    && 1 ≤ t.day && t.day ≤ daysInMonth t.year t.month
    && t.hour < 24 && t.minute < 60 && t.second < 60 && t.microsecond < 1000000
    && t.offset.natAbs < 1440

/-- The date with a year of at least so many digits. -/
def dateText (t : CivilTime) (digits : Nat) : String :=
  (if t.year < 0 then "-" else "") ++ Shortest.padded digits t.year.natAbs ++ "-" ++
    Shortest.padded 2 t.month ++ "-" ++ Shortest.padded 2 t.day

def clockText (t : CivilTime) : String :=
  Shortest.padded 2 t.hour ++ ":" ++ Shortest.padded 2 t.minute ++ ":" ++
    Shortest.padded 2 t.second

/-- The text of a time, with microseconds only if there are any. -/
def text (t : CivilTime) : String :=
  let fraction := if t.microsecond = 0 then "" else "." ++ Shortest.padded 6 t.microsecond
  let sign := if t.offset < 0 then "-" else "+"
  let minutes := t.offset.natAbs
  t.dateText 4 ++ "T" ++ t.clockText ++ fraction ++ sign ++ Shortest.padded 2 (minutes / 60) ++ ":" ++
    Shortest.padded 2 (minutes % 60)

/-- The date of a day counted from the first of March of the year zero. -/
def ofDay (day : Int) : Int × Nat × Nat :=
  let era := day.fdiv 146097
  let dayOfEra := (day.emod 146097).toNat
  let yearOfEra := (dayOfEra - dayOfEra / 1460 + dayOfEra / 36524 - dayOfEra / 146096) / 365
  let dayOfYear := dayOfEra - (365 * yearOfEra + yearOfEra / 4 - yearOfEra / 100)
  let shifted := (5 * dayOfYear + 2) / 153
  let month := if shifted < 10 then shifted + 3 else shifted - 9
  let year := yearOfEra + era * 400 + (if month ≤ 2 then 1 else 0)
  (year, month, dayOfYear - (153 * shifted + 2) / 5 + 1)

/-- The universal time that is a number of microseconds after the beginning of 1970. -/
def ofMicroseconds (n : Int) : CivilTime :=
  let inDay := (n.emod 86400000000).toNat
  let (year, month, day) := ofDay (n.fdiv 86400000000 + 719468)
  { year, month, day
    hour := inDay / 3600000000
    minute := inDay / 60000000 % 60
    second := inDay / 1000000 % 60
    microsecond := inDay % 1000000
    offset := 0 }

end CivilTime

end OperatorCore
