/-!
# Points in time

A point in time is a whole number of nanoseconds since the first moment of 1970, a duration a
natural number of nanoseconds. The calendar is the Gregorian one in both directions; the written
form has as many fraction digits as are needed, in groups of three.
-/

namespace TxGateway

/-- A length of time in nanoseconds. -/
structure Duration where
  /-- The number of nanoseconds. -/
  nanos : Nat
  deriving DecidableEq, Repr

namespace Duration

/-- A number of milliseconds. -/
def ofMillis (n : Nat) : Duration := ⟨n * 1000000⟩

/-- A number of seconds. -/
def ofSeconds (n : Nat) : Duration := ⟨n * 1000000000⟩

/-- The whole milliseconds in a duration. -/
def toMillis (d : Duration) : Nat := d.nanos / 1000000

/-- The whole seconds in a duration. -/
def toSeconds (d : Duration) : Nat := d.nanos / 1000000000

end Duration

/-- A day of the Gregorian calendar. -/
structure Date where
  /-- The year, with a year zero. -/
  year : Int
  /-- The month, from 1. -/
  month : Nat
  /-- The day of the month, from 1. -/
  day : Nat
  deriving DecidableEq, Repr

namespace Date

/-- The day that lies a number of days after the first of January 1970. Years are counted from
March, so that the leap day is the last day of its year. -/
def ofDays (days : Int) : Date :=
  let shifted := days + 719468
  let era := shifted / 146097
  let dayOfEra := (shifted % 146097).toNat
  let yearOfEra := (dayOfEra - dayOfEra / 1460 + dayOfEra / 36524 - dayOfEra / 146096) / 365
  let dayOfYear := dayOfEra - (365 * yearOfEra + yearOfEra / 4 - yearOfEra / 100)
  let monthFromMarch := (5 * dayOfYear + 2) / 153
  let month := if monthFromMarch < 10 then monthFromMarch + 3 else monthFromMarch - 9
  { year := yearOfEra + era * 400 + if month ≤ 2 then 1 else 0
    month := month
    day := dayOfYear - (153 * monthFromMarch + 2) / 5 + 1 }

/-- How many days after the first of January 1970 a day lies. -/
def toDays (d : Date) : Int :=
  let year := if d.month ≤ 2 then d.year - 1 else d.year
  let yearOfEra := (year % 400).toNat
  let monthFromMarch := if d.month ≤ 2 then d.month + 9 else d.month - 3
  let dayOfYear := (153 * monthFromMarch + 2) / 5 + d.day - 1
  let dayOfEra := yearOfEra * 365 + yearOfEra / 4 - yearOfEra / 100 + dayOfYear
  year / 400 * 146097 + dayOfEra - 719468

/-- Whether a year has a leap day. -/
def isLeap (year : Nat) : Bool :=
  year % 4 == 0 && (year % 100 != 0 || year % 400 == 0)

/-- How many days a month has. -/
def daysIn (year month : Nat) : Nat :=
  if month = 2 then (if isLeap year then 29 else 28)
  else if month = 4 ∨ month = 6 ∨ month = 9 ∨ month = 11 then 30
  else 31

end Date

/-- A point in time, in nanoseconds since the first moment of 1970. -/
structure Timestamp where
  /-- The number of nanoseconds. -/
  nanos : Int
  deriving DecidableEq, Repr

namespace Timestamp

/-- The point a duration later. -/
def later (t : Timestamp) (d : Duration) : Timestamp := ⟨t.nanos + d.nanos⟩

/-- How long ago a point was; a point in the future was no time ago. -/
def since (now t : Timestamp) : Duration := ⟨(now.nanos - t.nanos).toNat⟩

/-- The nanoseconds of a day. -/
def nanosPerDay : Nat := 86400000000000

/-- The first point in time that has a date, in the year -262143. -/
def earliest : Timestamp := ⟨Date.toDays ⟨-262143, 1, 1⟩ * nanosPerDay⟩

/-- The last point in time that has a date, in the year 262142. -/
def latest : Timestamp := ⟨Date.toDays ⟨262143, 1, 1⟩ * nanosPerDay - 1⟩

/-- Whether a point in time has a date. -/
def hasDate (t : Timestamp) : Bool := earliest.nanos ≤ t.nanos && t.nanos ≤ latest.nanos

/-- The greatest length of time that can be taken from a date, in nanoseconds. -/
def greatestSpan : Nat := 9223372036854775807 * 1000000

/-- What going back from a date gives. -/
inductive Earlier
  /-- The length of time is too great to be taken from any date. -/
  | tooLong
  /-- The result has no date. -/
  | outsideCalendar
  /-- The earlier point in time. -/
  | at (t : Timestamp)
  deriving DecidableEq, Repr

/-- Goes back from a date by a number of nanoseconds, and forward if it is negative. -/
def goBack (t : Timestamp) (span : Int) : Earlier :=
  let u : Timestamp := ⟨t.nanos - span⟩
  if greatestSpan < span.natAbs then .tooLong
  else if u.hasDate then .at u
  else .outsideCalendar

/-- A number in decimal digits with zeros in front up to a width. -/
def padded (width n : Nat) : String :=
  let digits := Nat.toDigits 10 n
  String.ofList (List.replicate (width - digits.length) '0' ++ digits)

/-- A year in four digits; a year outside of these has a sign. -/
def yearText (year : Int) : String :=
  if 0 ≤ year ∧ year ≤ 9999 then padded 4 year.toNat
  else (if year < 0 then "-" else "+") ++ padded 4 year.natAbs

/-- The fraction of a second in no, three, six or nine digits. -/
def fractionText (nanos : Nat) : String :=
  if nanos = 0 then ""
  else if nanos % 1000000 = 0 then "." ++ padded 3 (nanos / 1000000)
  else if nanos % 1000 = 0 then "." ++ padded 6 (nanos / 1000)
  else "." ++ padded 9 nanos

/-- The written form in universal time, such as `2023-11-14T22:13:20.500Z`. -/
def text (t : Timestamp) : String :=
  let seconds := t.nanos / 1000000000
  let fraction := (t.nanos % 1000000000).toNat
  let date := Date.ofDays (seconds / 86400)
  let ofDay := (seconds % 86400).toNat
  yearText date.year ++ "-" ++ padded 2 date.month ++ "-" ++ padded 2 date.day ++ "T"
    ++ padded 2 (ofDay / 3600) ++ ":" ++ padded 2 (ofDay / 60 % 60) ++ ":"
    ++ padded 2 (ofDay % 60) ++ fractionText fraction ++ "Z"

end Timestamp

end TxGateway
