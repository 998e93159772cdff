import Newsfeed.Proofs.Calendar
import Newsfeed.Time.Fields

/-! # Instants on local clocks

Calendar and clock, some minutes ahead of UTC, show an instant as its date and its time of day, a leap
second as second 60. What they show is read as the instant again, unless it lies in a second that is
drawn out within a minute: there the clock goes on to the next second, and that is what is read.

* `Instant.localTime`: what calendar and clock show at an instant;
* `Instant.toInstant?_localTime_of_leapEndsMinute`: the instant again;
* `Instant.carried`: what clocks make of any instant, with `localTime_carried`, `carried_eq_self_iff`
  and `toInstant?_localTime`;
* `LocalTime.leapEndsMinute_of_toInstant?`: no leap second is read but at the end of a minute.
-/

namespace Newsfeed

namespace Instant

/-! ## What calendar and clock show -/

theorem ofUnix?_unixSeconds (t : Instant) : ofUnix? t.unixSeconds t.nano = some t := by
  have hsecond := t.second_lt
  have hday : t.unixSeconds / secondsPerDay = t.day := by
    unfold unixSeconds secondsPerDay at *
    omega
  have hclock : (t.unixSeconds % secondsPerDay).toNat = t.second := by
    unfold unixSeconds secondsPerDay at *
    omega
  rw [ofUnix?, hday, hclock, of?_self]

/-- The second of the day on a clock that is some minutes ahead of UTC. -/
def localSecond (t : Instant) (offset : Int) : Nat :=
  ((t.unixSeconds + offset * 60) % secondsPerDay).toNat

/-- The day on a calendar that is some minutes ahead of UTC. -/
def localDay (t : Instant) (offset : Int) : Int := (t.unixSeconds + offset * 60) / secondsPerDay

/-- What calendar and clock show at an instant if they are some minutes ahead of UTC. -/
def localTime (t : Instant) (offset : Int) : LocalTime :=
  { date := Date.ofDayNumber (t.localDay offset)
    hour := t.localSecond offset / 3600
    minute := t.localSecond offset / 60 % 60
    second := t.localSecond offset % 60 + if t.isLeap then 1 else 0
    nano := t.nano % nanosPerSecond
    offset }

variable (t : Instant) (offset : Int)

theorem localSecond_lt : t.localSecond offset < secondsPerDay := by
  unfold localSecond secondsPerDay
  omega

/-- Day and second of the day count the seconds on the local clock. -/
theorem localDay_mul_add :
    t.localDay offset * secondsPerDay + t.localSecond offset = t.unixSeconds + offset * 60 := by
  unfold localDay localSecond secondsPerDay
  omega

/-- A leap second that ends a minute does so on every clock, since offsets are whole minutes. -/
theorem localSecond_of_isLeap {t : Instant} (hends : t.LeapEndsMinute) (h : t.isLeap = true) :
    t.localSecond offset % 60 = 59 := by
  have hminute : t.second % 60 = 59 := hends h
  unfold localSecond unixSeconds secondsPerDay
  omega

theorem isValid_localTime (hoffset : offset.natAbs < 1440) :
    (t.localTime offset).isValid = true := by
  have hsecond := t.localSecond_lt offset
  unfold secondsPerDay at hsecond
  have hhour : t.localSecond offset / 3600 < 24 := by omega
  have hminute : t.localSecond offset / 60 % 60 < 60 := by omega
  have hlast : (t.localSecond offset % 60 + if t.isLeap then 1 else 0) ≤ 60 := by
    split <;> omega
  have hnano : t.nano % nanosPerSecond < nanosPerSecond := Nat.mod_lt _ (by decide)
  simp only [LocalTime.isValid, localTime, Date.isValid_ofDayNumber, hhour, hminute, hlast, hnano,
    hoffset, decide_true, Bool.and_self]

/-- At UTC the calendar and the clock show the parts of the instant. -/
theorem localDay_zero : t.localDay 0 = t.day := by
  have hsecond := t.second_lt
  unfold localDay unixSeconds secondsPerDay at *
  omega

theorem localSecond_zero : t.localSecond 0 = t.second := by
  have hsecond := t.second_lt
  unfold localSecond unixSeconds secondsPerDay at *
  omega

/-! ## The instant that is shown -/

section LeapEndsMinute

variable {t : Instant} (hends : t.LeapEndsMinute)

include hends

/-- The clock counts a leap second to the second before it. -/
theorem secondOfDay_localTime : (t.localTime offset).secondOfDay = t.localSecond offset := by
  show t.localSecond offset / 3600 * 3600 + t.localSecond offset / 60 % 60 * 60 +
    min (t.localSecond offset % 60 + if t.isLeap then 1 else 0) 59 = t.localSecond offset
  by_cases h : t.isLeap = true
  · have hlast := localSecond_of_isLeap offset hends h
    rw [if_pos h]
    omega
  · rw [if_neg h]
    omega

/-- The nanoseconds of a leap second are told by second 60. -/
theorem nanos_localTime : (t.localTime offset).nanos = t.nano := by
  have hnano := t.nano_lt
  show t.nano % nanosPerSecond +
    (if (t.localSecond offset % 60 + if t.isLeap then 1 else 0) = 60 then nanosPerSecond else 0) =
      t.nano
  by_cases h : t.isLeap = true
  · have hle : nanosPerSecond ≤ t.nano := of_decide_eq_true h
    rw [if_pos h, if_pos (by rw [localSecond_of_isLeap offset hends h])]
    unfold nanosPerSecond at *
    omega
  · have hlt : ¬ nanosPerSecond ≤ t.nano := mt decide_eq_true h
    rw [if_neg h, if_neg (by omega)]
    unfold nanosPerSecond at *
    omega

/-- What calendar and clock show is the instant again, if the local day is one of the calendar. -/
theorem toInstant?_localTime_of_leapEndsMinute (hoffset : offset.natAbs < 1440)
    (hfirst : -96465292 ≤ t.localDay offset) (hlast : t.localDay offset ≤ 95026236) :
    (t.localTime offset).toInstant? = some t := by
  -- the instant that a clock without an offset would show in the same way
  let here : Instant :=
    ⟨t.localDay offset, t.localSecond offset, t.nano, hfirst, hlast, t.localSecond_lt offset,
      t.nano_lt⟩
  have hof : of? (t.localDay offset) (t.localSecond offset) t.nano = some here := of?_self here
  have hdate : (t.localTime offset).date.dayNumber = t.localDay offset :=
    Date.dayNumber_ofDayNumber _
  have hunix : here.unixSeconds - (t.localTime offset).offset * 60 = t.unixSeconds := by
    have hcount := t.localDay_mul_add offset
    show t.localDay offset * secondsPerDay + t.localSecond offset - offset * 60 = t.unixSeconds
    omega
  have hnano : here.nano = t.nano := rfl
  simp only [LocalTime.toInstant?, isValid_localTime t offset hoffset, hdate,
    secondOfDay_localTime offset hends, nanos_localTime offset hends, hof, guard_true,
    Option.pure_def, Option.bind_eq_bind, Option.bind_some, hunix, hnano, ofUnix?_unixSeconds]

end LeapEndsMinute

/-! ## Seconds drawn out within a minute -/

/-- The second after one that is drawn out within a minute lies in the same day. -/
theorem second_succ_lt {t : Instant} (h : ¬ t.LeapEndsMinute) : t.second + 1 < secondsPerDay := by
  have hsecond := t.second_lt
  have hminute := (not_leapEndsMinute_iff.mp h).2
  unfold secondsPerDay at *
  omega

/-- The instant that clocks show: a second that is drawn out within a minute runs on into the next
one, while a leap second at the end of a minute is shown as second 60. -/
def carried : Instant :=
  if h : t.LeapEndsMinute then t
  else
    { t with
      second := t.second + 1
      nano := t.nano - nanosPerSecond
      second_lt := second_succ_lt h
      nano_lt := (Nat.sub_le _ _).trans_lt t.nano_lt }

theorem carried_of_leapEndsMinute {t : Instant} (h : t.LeapEndsMinute) : t.carried = t :=
  dif_pos h

section NotLeapEndsMinute

variable {t : Instant} (h : ¬ t.LeapEndsMinute)

include h

theorem unixSeconds_carried : t.carried.unixSeconds = t.unixSeconds + 1 := by
  rw [carried, dif_neg h]
  show t.day * secondsPerDay + ((t.second + 1 : Nat) : Int) = t.unixSeconds + 1
  unfold unixSeconds
  omega

theorem nano_carried : t.carried.nano = t.nano - nanosPerSecond := by
  rw [carried, dif_neg h]

/-- The second that is carried into is not drawn out. -/
theorem isLeap_carried : t.carried.isLeap = false := by
  have hnano := t.nano_lt
  rw [isLeap, nano_carried h]
  exact decide_eq_false (by omega)

/-- A second within a minute is within a minute on every clock. -/
theorem localSecond_mod_lt : t.localSecond offset % 60 < 59 := by
  have hminute := (not_leapEndsMinute_iff.mp h).2
  unfold localSecond unixSeconds secondsPerDay
  omega

theorem localSecond_carried : t.carried.localSecond offset = t.localSecond offset + 1 := by
  have hminute := localSecond_mod_lt offset h
  unfold localSecond at *
  rw [unixSeconds_carried h]
  unfold secondsPerDay at *
  omega

end NotLeapEndsMinute

theorem leapEndsMinute_carried : t.carried.LeapEndsMinute := by
  by_cases h : t.LeapEndsMinute
  · rwa [carried_of_leapEndsMinute h]
  · intro hleap
    rw [isLeap_carried h] at hleap
    cases hleap

/-- Clocks show the instant itself exactly if a leap second, if any, ends a minute. -/
theorem carried_eq_self_iff : t.carried = t ↔ t.LeapEndsMinute := by
  constructor
  · intro h
    rw [← h]
    exact t.leapEndsMinute_carried
  · intro h
    exact carried_of_leapEndsMinute h

/-- Half a second into a leap second at noon, where no minute ends. -/
def leapAtNoon : Instant :=
  ⟨18372, 43200, 1500000000, by decide, by decide, by decide, by decide⟩

theorem localDay_carried : t.carried.localDay offset = t.localDay offset := by
  by_cases h : t.LeapEndsMinute
  · rw [carried_of_leapEndsMinute h]
  · have hminute := localSecond_mod_lt offset h
    unfold localSecond at hminute
    unfold localDay
    rw [unixSeconds_carried h]
    unfold secondsPerDay at *
    omega

/-- Carrying a second does not change what calendar and clock show. -/
theorem localTime_carried : t.carried.localTime offset = t.localTime offset := by
  by_cases h : t.LeapEndsMinute
  · rw [carried_of_leapEndsMinute h]
  · have hleap := (not_leapEndsMinute_iff.mp h).1
    have hminute := localSecond_mod_lt offset h
    have hordinary := isLeap_carried h
    have hnano : (t.nano - nanosPerSecond) % nanosPerSecond = t.nano % nanosPerSecond :=
      (Nat.mod_eq_sub_mod (of_decide_eq_true hleap)).symm
    -- the clock has counted the second already, so it stands where it stood
    simp only [localTime, localDay_carried, localSecond_carried offset h, nano_carried h, hordinary,
      hleap, hnano, LocalTime.mk.injEq, true_and, and_true, Bool.false_eq_true, if_false, if_true]
    omega

/-- Calendar and clock show the instant that is carried, if the local day is one of the calendar. -/
theorem toInstant?_localTime (hoffset : offset.natAbs < 1440)
    (hfirst : -96465292 ≤ t.localDay offset) (hlast : t.localDay offset ≤ 95026236) :
    (t.localTime offset).toInstant? = some t.carried := by
  rw [← t.localDay_carried offset] at hfirst hlast
  rw [← localTime_carried]
  exact toInstant?_localTime_of_leapEndsMinute offset t.leapEndsMinute_carried hoffset hfirst hlast

end Instant

/-! ## What is read from fields -/

namespace LocalTime

variable {l : LocalTime} {t : Instant}

theorem nano_lt_of_isValid (h : l.isValid = true) : l.nano < nanosPerSecond := by
  simp only [isValid, Bool.and_eq_true, decide_eq_true_eq] at h
  exact h.1.2

/-- A clock tells a leap second by second 60. -/
theorem second_eq_of_le_nanos (h : l.isValid = true) (hleap : nanosPerSecond ≤ l.nanos) :
    l.second = 60 := by
  have hnano := nano_lt_of_isValid h
  by_contra hsecond
  rw [nanos, if_neg hsecond] at hleap
  omega

/-- Every leap second that is read ends a minute, because clocks show it as second 60. -/
theorem leapEndsMinute_of_toInstant? (h : l.toInstant? = some t) : t.LeapEndsMinute := by
  obtain ⟨_, hguard, h⟩ := Option.bind_eq_some_iff.mp h
  obtain ⟨here, hhere, ht⟩ := Option.bind_eq_some_iff.mp h
  have hvalid : l.isValid = true := by
    by_contra hinvalid
    rw [guard, if_neg hinvalid] at hguard
    cases hguard
  obtain ⟨-, hsecond, hnano⟩ := Instant.of?_eq_some_iff.mp hhere
  obtain ⟨-, hsecond', hnano'⟩ := Instant.of?_eq_some_iff.mp ht
  intro hleap
  have hle : nanosPerSecond ≤ l.nanos := by
    rw [← hnano, ← hnano']
    exact of_decide_eq_true hleap
  have hlast : here.second % 60 = 59 := by
    rw [hsecond, secondOfDay, second_eq_of_le_nanos hvalid hle]
    omega
  -- offsets are whole minutes, so the second of the minute is the same at UTC
  rw [hsecond']
  unfold Instant.unixSeconds secondsPerDay
  omega

end LocalTime

end Newsfeed
