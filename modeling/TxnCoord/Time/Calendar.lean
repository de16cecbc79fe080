/-!
# The civil calendar

Dates of the proleptic Gregorian calendar, counted as days from 1 January 1970, and
instants in UTC to the second.

* `Date.toDays` and `Date.ofDays` convert between a date and its day number by the
  era arithmetic of 400-year cycles of 146097 days.
* Dates and instants run from the year `minYear` (-262143) to `maxYear` (262142). A
  reader refuses a local time outside that range, and one whose UTC instant falls outside
  it.
* An `Instant` is a day number and a second of that day. A leap second keeps the number
  59 of its minute and carries a flag, so it is written `:60`; it stays a leap second when
  moved by a whole number of minutes.
* `Instant.render` writes the extended form `YYYY-MM-DDTHH:MM:SS+00:00`. A year outside
  0 to 9999 has a sign and at least four digits.
-/

namespace TxnCoord.Time

/-- Whether a year has 366 days. -/
def isLeapYear (y : Int) : Bool := (y % 4 == 0 && y % 100 != 0) || y % 400 == 0

/-- The number of days of a month (1 to 12) in a year. -/
def monthLength (y : Int) (m : Nat) : Nat :=
  if m = 2 then (if isLeapYear y then 29 else 28)
  else if m = 4 ∨ m = 6 ∨ m = 9 ∨ m = 11 then 30
  else 31

/-- A day of the calendar. -/
structure Date where
  year : Int
  month : Nat
  day : Nat
  deriving DecidableEq, Repr

namespace Date

/-- Whether the month and day exist in the year. -/
def isValid (d : Date) : Bool :=
  1 ≤ d.month && d.month ≤ 12 && 1 ≤ d.day && d.day ≤ monthLength d.year d.month

/-- The day number, counted from 1 January 1970. -/
def toDays (d : Date) : Int :=
  let y : Int := if d.month ≤ 2 then d.year - 1 else d.year
  let era := y / 400
  let yoe := y - era * 400
  let mp : Int := (d.month + 9) % 12
  let doy := (153 * mp + 2) / 5 + d.day - 1
  let doe := yoe * 365 + yoe / 4 - yoe / 100 + doy
  era * 146097 + doe - 719468

/-- The date of a day number. -/
def ofDays (z : Int) : Date :=
  let z := z + 719468
  let era := z / 146097
  let doe := z - era * 146097
  let yoe := (doe - doe / 1460 + doe / 36524 - doe / 146096) / 365
  let doy := doe - (365 * yoe + yoe / 4 - yoe / 100)
  let mp := (5 * doy + 2) / 153
  let d := doy - (153 * mp + 2) / 5 + 1
  let m := if mp < 10 then mp + 3 else mp - 9
  let y := yoe + era * 400
  ⟨if m ≤ 2 then y + 1 else y, m.toNat, d.toNat⟩

end Date

/-- The earliest year of a date or instant. -/
def minYear : Int := -262143

/-- The latest year of a date or instant. -/
def maxYear : Int := 262142

/-- The day number of the first day of `minYear`. -/
def firstDay : Int := Date.toDays ⟨minYear, 1, 1⟩

/-- The day number of the last day of `maxYear`. -/
def lastDay : Int := Date.toDays ⟨maxYear, 12, 31⟩

/-- The day of the week of a day number: 0 for Monday up to 6 for Sunday. -/
def weekday (days : Int) : Nat := ((days + 3) % 7).toNat

/-- An instant in UTC, to the second. -/
structure Instant where
  /-- Days from 1 January 1970. -/
  days : Int
  /-- The second of the day, below 86400; a leap second has the number of the second before. -/
  second : Nat
  /-- Whether this is a leap second. -/
  leap : Bool := false
  deriving DecidableEq, Repr

namespace Instant

/-- The instant at a date, a time of day and an offset east of UTC in seconds. -/
def ofLocal (d : Date) (hour minute second : Nat) (leap : Bool) (offset : Int) : Instant :=
  let total : Int := d.toDays * 86400 + (hour * 3600 + minute * 60 + second : Nat) - offset
  ⟨total / 86400, (total % 86400).toNat, leap⟩

/-- Digits of a number, padded with zeros on the left to a width. -/
def padded (width n : Nat) : String :=
  let s := toString n
  String.ofList (List.replicate (width - s.length) '0') ++ s

/-- A year: four digits from 0 to 9999, otherwise a sign and at least four digits. -/
def renderYear (y : Int) : String :=
  if 0 ≤ y ∧ y ≤ 9999 then padded 4 y.toNat
  else (if y < 0 then "-" else "+") ++ padded 4 y.natAbs

/-- The extended form with a zero offset, seconds written `:60` for a leap second. -/
def render (t : Instant) : String :=
  let d := Date.ofDays t.days
  let s := t.second % 60 + (if t.leap then 1 else 0)
  renderYear d.year ++ "-" ++ padded 2 d.month ++ "-" ++ padded 2 d.day ++ "T" ++
    padded 2 (t.second / 3600) ++ ":" ++ padded 2 (t.second / 60 % 60) ++ ":" ++ padded 2 s ++
    "+00:00"

end Instant

end TxnCoord.Time
