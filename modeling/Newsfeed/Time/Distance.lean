import Newsfeed.Double
import Newsfeed.Time.Instant

/-!
# Distances in words

How far apart two instants are, in coarse English: minutes, hours, days, months and years, rounded
to the nearest unit. Direction is ignored. Numbers of units are reckoned in double precision.

* `Distance.ofMinutes` : the bucket of a number of minutes.
* `Distance.text` : its words; a unit is plural unless there is exactly one of it.
* `Distance.between_comm` : the distance does not depend on the order of the two instants.
-/

namespace Newsfeed

/-- A distance in time, as coarse as it is told. -/
inductive Distance where
  | underMinute
  | minutes (n : Nat)
  | aboutHours (n : Nat)
  | days (n : Nat)
  | aboutMonths (n : Nat)
  | months (n : Nat)
  | aboutYears (n : Nat)
  | overYears (n : Nat)
  | almostYears (n : Nat)
deriving DecidableEq, Repr

namespace Distance

/-- Minutes in an hour. -/
def minutesInHour : Nat := 60

/-- Minutes in a day. -/
def minutesInDay : Nat := 1440

/-- Minutes in a month of thirty days. -/
def minutesInMonth : Nat := 43200

/-- The nearest whole number of units, a half counting up. -/
def nearest (amount unit : Nat) : Nat := (Double.quotient amount unit).round

/-- The number of whole units. -/
def wholes (amount unit : Nat) : Nat := (Double.quotient amount unit).floor

/-- Distances of a year and more: the months beyond whole years decide between about, over and
almost. -/
def ofMonths (m : Nat) : Distance :=
  if m % 12 < 3 then aboutYears (m / 12)
  else if m % 12 < 9 then overYears (m / 12)
  else almostYears (m / 12 + 1)

/-- The bucket of a number of minutes. An hour and a day are stretched to one and a half and one
and three quarters of themselves before the plural sets in. -/
def ofMinutes (m : Nat) : Distance :=
  if m = 0 then underMinute
  else if m < 45 then minutes m
  else if m < 90 then aboutHours 1
  else if m < minutesInDay then aboutHours (nearest m minutesInHour)
  else if m < 2520 then days 1
  else if m < minutesInMonth then days (nearest m minutesInDay)
  else if m < 2 * minutesInMonth then aboutMonths (nearest m minutesInMonth)
  else if wholes m minutesInMonth < 12 then months (nearest m minutesInMonth)
  else ofMonths (wholes m minutesInMonth)

/-- The bucket of a number of seconds. -/
def ofSeconds (s : Nat) : Distance := ofMinutes (nearest s 60)

/-- The distance between two instants. -/
def between (a b : Instant) : Distance := ofSeconds (b.secondsApart a)

/-- A count and its unit; the plural has an `s`. -/
def counted (n : Nat) (unit : String) : String :=
  if n = 1 then "1 " ++ unit else toString n ++ " " ++ unit ++ "s"

/-- A distance in words. -/
def text : Distance → String
  | underMinute => "less than a minute"
  | minutes n => counted n "minute"
  | aboutHours n => "about " ++ counted n "hour"
  | days n => counted n "day"
  | aboutMonths n => "about " ++ counted n "month"
  | months n => counted n "month"
  | aboutYears n => "about " ++ counted n "year"
  | overYears n => "over " ++ counted n "year"
  | almostYears n => "almost " ++ counted n "year"

/-- The distance does not depend on the order of the two instants. -/
theorem between_comm (a b : Instant) : between a b = between b a := by
  simp [between, Instant.secondsApart_comm]

end Distance

/-- How long ago, in words, an item was published; the future reads the same. -/
def relativeLabel (published now : Instant) : String :=
  (Distance.between published now).text ++ " ago"

end Newsfeed
