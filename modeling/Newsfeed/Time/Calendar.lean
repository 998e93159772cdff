/-!
# Calendar

Dates of the proleptic Gregorian calendar and their day numbers. Day 0 is 1 January 1970. Both
directions count years from March, so that the leap day ends its year: a date is a century, a
four-year group, a year and a day within an era of 400 years.

* `Date.dayNumber` : the number of days since day 0.
* `Date.ofDayNumber` : the date of a day number.
* `Date.isValid` : whether the month has such a day.
-/

namespace Newsfeed

/-- A date by its year (which may be zero or negative), month and day of month. -/
structure Date where
  year : Int
  month : Nat
  day : Nat
deriving DecidableEq, Repr

namespace Date

/-- Whether a year has a 29 February. -/
def isLeapYear (y : Int) : Bool := y % 4 == 0 && (y % 100 != 0 || y % 400 == 0)

/-- The number of days of a month; a month that does not exist has none. -/
def daysInMonth (y : Int) (m : Nat) : Nat :=
  match m with
  | 1 | 3 | 5 | 7 | 8 | 10 | 12 => 31
  | 4 | 6 | 9 | 11 => 30
  | 2 => if isLeapYear y then 29 else 28
  | _ => 0

/-- Whether the date exists in the calendar. -/
def isValid (d : Date) : Bool := 1 ≤ d.day && d.day ≤ daysInMonth d.year d.month

/-- Days from 1 March of a year to the first day of the month that comes `m` months after March. -/
def daysBeforeMonth (m : Nat) : Nat := (153 * m + 2) / 5

/-- Days from 1 March of year 0 to 1 January 1970. -/
def epochOffset : Int := 719468

/-- The number of days since 1 January 1970. -/
def dayNumber (d : Date) : Int :=
  let y := if d.month ≤ 2 then d.year - 1 else d.year
  let m := (d.month + 9) % 12
  365 * y + y / 4 - y / 100 + y / 400 + (daysBeforeMonth m + d.day - 1 : Int) - epochOffset

/-- The date of a day number. -/
def ofDayNumber (n : Int) : Date :=
  let z := n + epochOffset
  let era := z / 146097
  let dayOfEra := (z % 146097).toNat
  let century := min 3 (dayOfEra / 36524)
  let dayOfCentury := dayOfEra - century * 36524
  let group := dayOfCentury / 1461
  let dayOfGroup := dayOfCentury - group * 1461
  let yearOfGroup := min 3 (dayOfGroup / 365)
  let dayOfYear := dayOfGroup - yearOfGroup * 365
  let m := (5 * dayOfYear + 2) / 153
  let y := era * 400 + century * 100 + group * 4 + yearOfGroup
  { year := if m < 10 then y else y + 1
    month := if m < 10 then m + 3 else m - 9
    day := dayOfYear - daysBeforeMonth m + 1 }

end Date

end Newsfeed
