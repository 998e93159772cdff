import Newsfeed.Text.Blank
import Newsfeed.Text.Reader
import Newsfeed.Time.Instant

/-!
# Date and clock fields

The parts that every written time is made of, in both directions, and the step from parts to an
instant.

* `writeYear` : four digits for the years 0 to 9999, otherwise a sign and at least four digits.
* `writeClock` : hours, minutes and seconds; a leap second is written as second 60.
* `LocalTime.toInstant?` : the instant of a date and a clock time that are some minutes ahead of
  UTC; `none` if a field is out of range or the instant is.
-/

namespace Newsfeed

open Text

/-- A number below 100 in two digits. -/
def twoDigits (n : Nat) : List Char := [Nat.digitChar (n / 10 % 10), Nat.digitChar (n % 10)]

/-- A number in decimal digits, with zeros in front up to the given width. -/
def paddedDigits (width n : Nat) : List Char :=
  let ds := Nat.toDigits 10 n
  List.replicate (width - ds.length) '0' ++ ds

/-- A year in four digits, or with a sign if four digits do not hold it. -/
def writeYear (y : Int) : List Char :=
  if 0 ≤ y ∧ y ≤ 9999 then paddedDigits 4 y.toNat
  else (if y < 0 then '-' else '+') :: paddedDigits 4 y.natAbs

/-- A date as year, month and day joined by hyphens. -/
def writeDate (d : Date) : List Char :=
  writeYear d.year ++ '-' :: twoDigits d.month ++ '-' :: twoDigits d.day

/-- A second of the day as hours, minutes and seconds joined by colons; a leap second counts one
more. -/
def writeClock (second : Nat) (leap : Bool) : List Char :=
  twoDigits (second / 3600) ++ ':' :: twoDigits (second / 60 % 60) ++
    ':' :: twoDigits (second % 60 + if leap then 1 else 0)

/-- Date and clock fields as they are read, before any of them is checked. The offset is how many
minutes the clock is ahead of UTC. -/
structure LocalTime where
  date : Date
  hour : Nat
  minute : Nat
  second : Nat
  nano : Nat
  offset : Int
deriving DecidableEq, Repr

namespace LocalTime

/-- Whether each field lies in its range; second 60 is a leap second, which may end any minute. -/
def isValid (t : LocalTime) : Bool :=
  t.date.isValid && t.hour < 24 && t.minute < 60 && t.second ≤ 60 && t.nano < nanosPerSecond &&
    t.offset.natAbs < 1440

/-- The second of the day on the local clock; a leap second belongs to the second before it. -/
def secondOfDay (t : LocalTime) : Nat := t.hour * 3600 + t.minute * 60 + min t.second 59

/-- The nanoseconds, counted on from 10⁹ in a leap second. -/
def nanos (t : LocalTime) : Nat := t.nano + if t.second = 60 then nanosPerSecond else 0

/-- The instant of checked fields. The local date has to lie in the range of instants as well. -/
def toInstant? (t : LocalTime) : Option Instant := do
  guard t.isValid
  let here ← Instant.of? t.date.dayNumber t.secondOfDay t.nanos
  Instant.ofUnix? (here.unixSeconds - t.offset * 60) here.nano

end LocalTime

namespace Reader

/-- Skips blanks. -/
def blanks : Reader Unit := skip isBlank

/-- A number of one or two digits, blanks allowed in front. -/
def field : Reader Nat := do
  blanks
  digits 1 2

/-- A year with blanks allowed in front: one to four digits, or a sign directly followed by any
number of digits. -/
def year : Reader Int := do
  blanks
  match ← peek with
  | some '-' => do
    char '-'
    return -(← anyDigits : Nat)
  | some '+' => do
    char '+'
    return (← anyDigits : Nat)
  | _ => return (← digits 1 4 : Nat)

/-- A fraction of a second after a point, in nanoseconds: at least one digit, of which the first
nine count. -/
def fraction : Reader Nat := do
  let ds ← digitRun 1 9
  skip Char.isDigit
  return numeral (ds.rightpad 9 '0')

/-- A fraction if a point stands next, else none. -/
def optionalFraction : Reader Nat := do
  match ← peek with
  | some '.' => do
    char '.'
    fraction
  | _ => return 0

/-- An offset from UTC in minutes: a sign (a hyphen or the minus sign), two digits of hours, what
the separator takes, two digits of minutes below 60. -/
def offset (separator : Reader Unit) : Reader Int := do
  let sign ← oneOf ['+', '-', '−']
  let hours ← digits 2 2
  separator
  let minutes ← digits 2 2
  check (minutes < 60)
  let total : Int := (hours * 60 + minutes : Nat)
  return if sign = '+' then total else -total

/-- The letter for UTC, in either case. -/
def zulu : Reader Int := do
  let _ ← oneOf ['Z', 'z']
  return 0

end Reader

end Newsfeed
