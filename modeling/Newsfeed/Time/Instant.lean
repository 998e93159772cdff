import Newsfeed.Time.Calendar

/-!
# Instants and spans

An instant is a second of a day in UTC with its nanoseconds. A leap second is a second drawn out: its
nanoseconds run from 10⁹ up to, but not including, 2 · 10⁹. Instants lie in the years -262143 to
262142.

* `Instant.LeapEndsMinute` : a leap second, if the instant lies in one, is the last of its minute.
  Clocks show no others, but an instant may lie in one.
* `Instant.since` : the span from one instant to another. A leap second counts as a second of its
  own only if it lies strictly inside the span.
* `Span.wholeSeconds` : the seconds of a span with the fraction dropped, toward zero.
* `Instant.unixSeconds` : the seconds since 1 January 1970, not counting leap seconds.
-/

namespace Newsfeed

/-- A signed length of time, in nanoseconds. -/
structure Span where
  nanos : Int
deriving DecidableEq, Repr

/-- Nanoseconds in a second. -/
def nanosPerSecond : Nat := 1000000000

/-- Seconds in a day that has no leap second. -/
def secondsPerDay : Nat := 86400

namespace Span

/-- The whole seconds of a span, the fraction dropped toward zero. -/
def wholeSeconds (s : Span) : Int := s.nanos.tdiv nanosPerSecond

/-- The span of some seconds and nanoseconds. -/
def ofSeconds (seconds : Int) (nanos : Int) : Span := ⟨seconds * nanosPerSecond + nanos⟩

/-- The longest span, in milliseconds, that can be measured; the shortest is its negative. -/
def maxMillis : Int := 0x7fffffffffffffff

/-- The span of a number of hours; `none` if it cannot be measured. -/
def ofHours? (hours : Int) : Option Span :=
  if (hours * 3600000).natAbs ≤ maxMillis.natAbs then some (ofSeconds (hours * 3600) 0) else none

end Span

/-- A moment in UTC: the day since 1 January 1970, the second of that day, and nanoseconds, which
reach 10⁹ within a leap second. Any second of the day may be drawn out to one. -/
structure Instant where
  day : Int
  second : Nat
  nano : Nat
  first_day_le : -96465292 ≤ day
  day_le_last : day ≤ 95026236
  second_lt : second < secondsPerDay
  nano_lt : nano < 2 * nanosPerSecond
deriving DecidableEq

namespace Instant

/-- The instant with the given parts, if there is one. -/
def of? (day : Int) (second nano : Nat) : Option Instant :=
  if h : (-96465292 ≤ day ∧ day ≤ 95026236) ∧ second < secondsPerDay ∧
      nano < 2 * nanosPerSecond then
    some ⟨day, second, nano, h.1.1, h.1.2, h.2.1, h.2.2⟩
  else none

/-- The start of 1 January 1970. -/
def epoch : Instant := ⟨0, 0, 0, by decide, by decide, by decide, by decide⟩

instance : Inhabited Instant := ⟨epoch⟩

/-- The instant of a count of seconds since 1 January 1970 and some nanoseconds. -/
def ofUnix? (seconds : Int) (nano : Nat) : Option Instant :=
  of? (seconds / secondsPerDay) (seconds % secondsPerDay).toNat nano

/-- Seconds since 1 January 1970, each day having 86400 of them; the fraction is dropped. -/
def unixSeconds (t : Instant) : Int := t.day * secondsPerDay + t.second

/-- The calendar date of an instant. -/
def date (t : Instant) : Date := Date.ofDayNumber t.day

/-- Whether an instant lies in a leap second. -/
def isLeap (t : Instant) : Bool := nanosPerSecond ≤ t.nano

/-- A leap second, if the instant lies in one, is the last second of its minute. -/
def LeapEndsMinute (t : Instant) : Prop := t.isLeap = true → t.second % 60 = 59

instance (t : Instant) : Decidable t.LeapEndsMinute :=
  inferInstanceAs (Decidable (t.isLeap = true → t.second % 60 = 59))

theorem not_leapEndsMinute_iff {t : Instant} :
    ¬ t.LeapEndsMinute ↔ t.isLeap = true ∧ t.second % 60 ≠ 59 :=
  Classical.not_imp

/-- The leap seconds to count between two times of day: one if the earlier of the two seconds is
drawn out. -/
def leapBetween (x y : Instant) : Int :=
  if y.second < x.second then (if y.isLeap then 1 else 0)
  else if x.second < y.second then (if x.isLeap then -1 else 0)
  else 0

/-- The span from `y` to `x`. -/
def since (x y : Instant) : Span :=
  Span.ofSeconds ((x.day - y.day) * secondsPerDay + ((x.second : Int) - y.second) + leapBetween x y)
    ((x.nano : Int) - y.nano)

/-- The whole seconds between two instants, in whichever order they come. -/
def secondsApart (x y : Instant) : Nat := (x.since y).wholeSeconds.natAbs

/-- The instant with its fraction of a second dropped; a leap second stays a leap second. -/
def truncate (t : Instant) : Instant :=
  { t with
    nano := if t.isLeap then nanosPerSecond else 0
    nano_lt := by split <;> decide }

/-- The parts of an instant are those that were asked for. -/
theorem of?_eq_some_iff {day : Int} {second nano : Nat} {t : Instant} :
    of? day second nano = some t ↔ t.day = day ∧ t.second = second ∧ t.nano = nano := by
  unfold of?
  constructor
  · intro h
    split at h
    · cases h
      exact ⟨rfl, rfl, rfl⟩
    · cases h
  · rintro ⟨rfl, rfl, rfl⟩
    exact dif_pos ⟨⟨t.first_day_le, t.day_le_last⟩, t.second_lt, t.nano_lt⟩

/-- An instant is the one with its own parts. -/
theorem of?_self (t : Instant) : of? t.day t.second t.nano = some t :=
  of?_eq_some_iff.mpr ⟨rfl, rfl, rfl⟩

/-- The span from an instant to another is the opposite of the span back. -/
theorem since_swap (x y : Instant) : (x.since y).nanos = -(y.since x).nanos := by
  have h : leapBetween x y = -leapBetween y x := by
    unfold leapBetween
    rcases Nat.lt_trichotomy x.second y.second with h | h | h
    · rw [if_neg (Nat.lt_asymm h), if_pos h, if_pos h]
      split <;> rfl
    · rw [h]
      simp
    · rw [if_pos h, if_neg (Nat.lt_asymm h), if_pos h]
      split <;> rfl
  simp only [since, Span.ofSeconds, h, secondsPerDay, nanosPerSecond]
  omega

/-- How far apart two instants are does not depend on their order. -/
theorem secondsApart_comm (x y : Instant) : x.secondsApart y = y.secondsApart x := by
  simp only [secondsApart, Span.wholeSeconds, since_swap x y, Int.neg_tdiv, Int.natAbs_neg]

end Instant

end Newsfeed
