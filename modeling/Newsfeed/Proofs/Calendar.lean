import Mathlib.Tactic.IntervalCases
import Newsfeed.Time.Calendar

/-! # Dates and day numbers

A day number is taken apart into a year that begins in March and a day of that year. In such a year
the leap day comes last, so the months have the same days in every year, and only the last day of a
year asks whether the year is a leap year.

* `MarchDay`: a day by its year and its number in that year;
* `exists_marchDay`: the day of a day number;
* `Date.dayNumber_ofDayNumber`, `Date.isValid_ofDayNumber`: the date of a day number has that day
  number, and it is a date of the calendar.
-/

namespace Newsfeed

/-- A day of a year that begins in March. The year is told by its era of 400 years, its century, its
group of four years and its place in the group; the day is counted from zero. -/
structure MarchDay where
  era : Int
  century : Nat
  group : Nat
  year : Nat
  day : Nat

namespace MarchDay

/-- The parts are in range, and day 365 is in a leap year: the last one of its group, and at the end
of a century only if the era ends with it. -/
structure IsValid (d : MarchDay) : Prop where
  century_le : d.century ≤ 3
  group_le : d.group ≤ 24
  year_le : d.year ≤ 3
  day_le : d.day ≤ 365
  leap : d.day = 365 → d.year = 3 ∧ (d.group = 24 → d.century = 3)

/-- The year in which the March of the year lies. -/
def calendarYear (d : MarchDay) : Int := d.era * 400 + d.century * 100 + d.group * 4 + d.year

/-- The number of days since 1 March of year 0. -/
def number (d : MarchDay) : Int :=
  d.era * 146097 + d.century * 36524 + d.group * 1461 + d.year * 365 + d.day

/-- The month of the day, counted from March. -/
def month (d : MarchDay) : Nat := (5 * d.day + 2) / 153

/-- The date of the day. -/
def date (d : MarchDay) : Date :=
  { year := if d.month < 10 then d.calendarYear else d.calendarYear + 1
    month := if d.month < 10 then d.month + 3 else d.month - 9
    day := d.day - Date.daysBeforeMonth d.month + 1 }

/-- Every day number is that of a day, and its date is the date of that day. -/
theorem exists_marchDay (n : Int) :
    ∃ d : MarchDay, d.IsValid ∧ d.number = n + Date.epochOffset ∧ Date.ofDayNumber n = d.date := by
  let z := n + Date.epochOffset
  let dayOfEra := (z % 146097).toNat
  let century := min 3 (dayOfEra / 36524)
  let dayOfCentury := dayOfEra - century * 36524
  let group := dayOfCentury / 1461
  let dayOfGroup := dayOfCentury - group * 1461
  let year := min 3 (dayOfGroup / 365)
  let day := dayOfGroup - year * 365
  -- what each division leaves; the last century, group and year may be a day longer
  have hera : z = z / 146097 * 146097 + dayOfEra := by omega
  have hdayOfEra : dayOfEra < 146097 := by omega
  have hcentury : dayOfEra = century * 36524 + dayOfCentury ∧ dayOfCentury ≤ 36524 ∧
      (dayOfCentury = 36524 → century = 3) := by omega
  have hgroup : dayOfCentury = group * 1461 + dayOfGroup ∧ dayOfGroup ≤ 1460 := by omega
  have hyear : dayOfGroup = year * 365 + day ∧ day ≤ 365 ∧ (day = 365 → year = 3) := by omega
  refine ⟨⟨z / 146097, century, group, year, day⟩, ?_, ?_, rfl⟩
  · constructor
    case century_le => exact Nat.min_le_left _ _
    case group_le => show group ≤ 24; omega
    case year_le => exact Nat.min_le_left _ _
    case day_le => exact hyear.2.1
    case leap =>
      intro hday
      change day = 365 at hday
      refine ⟨hyear.2.2 hday, ?_⟩
      intro hlast
      change group = 24 at hlast
      show century = 3
      omega
  · show z / 146097 * 146097 + (century * 36524 : Int) + group * 1461 + year * 365 + day = z
    omega

variable {d : MarchDay}

theorem month_le (hd : d.IsValid) : d.month ≤ 11 := by
  have hday := hd.day_le
  unfold month
  omega

/-- The day lies in its month: not before its first day, and before the next month begins. -/
theorem daysBeforeMonth_le (d : MarchDay) : Date.daysBeforeMonth d.month ≤ d.day := by
  unfold Date.daysBeforeMonth month
  omega

theorem lt_daysBeforeMonth (d : MarchDay) : d.day < Date.daysBeforeMonth (d.month + 1) := by
  unfold Date.daysBeforeMonth month
  omega

/-- A date counts its days from March again. -/
theorem dayNumber_date (hd : d.IsValid) : d.date.dayNumber = d.number - Date.epochOffset := by
  have hmonth := month_le hd
  have hbefore := d.daysBeforeMonth_le
  have hyear : (if d.date.month ≤ 2 then d.date.year - 1 else d.date.year) = d.calendarYear := by
    simp only [date]
    split <;> split <;> omega
  have hback : (d.date.month + 9) % 12 = d.month := by
    simp only [date]
    split <;> omega
  have hday : (Date.daysBeforeMonth d.month + d.date.day - 1 : Int) = d.day := by
    simp only [date]
    omega
  -- the leap days of all years before are those of the eras, centuries and groups
  have hfour : d.calendarYear / 4 = d.era * 100 + d.century * 25 + d.group := by
    have := hd.year_le
    unfold calendarYear
    omega
  have hhundred : d.calendarYear / 100 = d.era * 4 + d.century := by
    have := hd.year_le
    have := hd.group_le
    unfold calendarYear
    omega
  have hfourHundred : d.calendarYear / 400 = d.era := by
    have := hd.year_le
    have := hd.group_le
    have := hd.century_le
    unfold calendarYear
    omega
  simp only [Date.dayNumber, hyear, hback, hday, hfour, hhundred, hfourHundred]
  unfold calendarYear number
  omega

/-- The year after the March of a year with a day 365 is a leap year. -/
theorem isLeapYear_of_day (hd : d.IsValid) (hday : d.day = 365) :
    Date.isLeapYear (d.calendarYear + 1) = true := by
  obtain ⟨hyear, hlast⟩ := hd.leap hday
  have hgroup := hd.group_le
  have hcentury := hd.century_le
  have hfour : (d.calendarYear + 1) % 4 = 0 := by
    unfold calendarYear
    omega
  have hhundred : (d.calendarYear + 1) % 100 ≠ 0 ∨ (d.calendarYear + 1) % 400 = 0 := by
    unfold calendarYear
    omega
  simp only [Date.isLeapYear, hfour]
  simpa using hhundred

/-- All months but the last one have the same days in every year. -/
theorem daysInMonth_eq (y : Int) {m : Nat} (hm : m < 11) :
    Date.daysInMonth y (if m < 10 then m + 3 else m - 9) =
      Date.daysBeforeMonth (m + 1) - Date.daysBeforeMonth m := by
  interval_cases m <;> rfl

/-- The date of a day is a date of the calendar. -/
theorem isValid_date (hd : d.IsValid) : d.date.isValid = true := by
  have hbefore := d.daysBeforeMonth_le
  have hlength : d.day + 1 - Date.daysBeforeMonth d.month ≤
      Date.daysInMonth d.date.year d.date.month := by
    rcases Nat.lt_or_eq_of_le (month_le hd) with hmonth | hmonth
    · have hafter := d.lt_daysBeforeMonth
      rw [date, daysInMonth_eq _ hmonth]
      omega
    · -- the last month is a February, which has room for day 365 in leap years only
      have hday := hd.day_le
      have hfebruary : Date.daysInMonth d.date.year d.date.month =
          if Date.isLeapYear (d.calendarYear + 1) then 29 else 28 := by
        rw [date, hmonth]
        rfl
      rw [hfebruary, hmonth]
      simp only [Date.daysBeforeMonth]
      by_cases hlast : d.day = 365
      · rw [if_pos (isLeapYear_of_day hd hlast)]
        omega
      · split <;> omega
  simp only [Date.isValid, Bool.and_eq_true, decide_eq_true_eq]
  constructor
  · simp [date]
  · simp only [date] at hlength ⊢
    omega

end MarchDay

namespace Date

/-- The date of a day number has that day number. -/
theorem dayNumber_ofDayNumber (n : Int) : (ofDayNumber n).dayNumber = n := by
  obtain ⟨d, hd, hnumber, hdate⟩ := MarchDay.exists_marchDay n
  rw [hdate, MarchDay.dayNumber_date hd, hnumber]
  omega

/-- The date of a day number is a date of the calendar. -/
theorem isValid_ofDayNumber (n : Int) : (ofDayNumber n).isValid = true := by
  obtain ⟨d, hd, -, hdate⟩ := MarchDay.exists_marchDay n
  rw [hdate]
  exact MarchDay.isValid_date hd

theorem daysInMonth_le (y : Int) (m : Nat) : daysInMonth y m ≤ 31 := by
  unfold daysInMonth
  split <;> (try split) <;> omega

/-- A month with days is one of the twelve. -/
theorem month_le_of_daysInMonth {y : Int} {m : Nat} (h : 0 < daysInMonth y m) : m ≤ 12 := by
  unfold daysInMonth at h
  split at h <;> omega

/-- Month and day of a date of the calendar have two digits. -/
theorem month_le_of_isValid {d : Date} (h : d.isValid = true) : d.month ≤ 12 := by
  simp only [isValid, Bool.and_eq_true, decide_eq_true_eq] at h
  exact month_le_of_daysInMonth (Nat.lt_of_lt_of_le h.1 h.2)

theorem day_le_of_isValid {d : Date} (h : d.isValid = true) : d.day ≤ 31 := by
  simp only [isValid, Bool.and_eq_true, decide_eq_true_eq] at h
  exact h.2.trans (daysInMonth_le _ _)

end Date

end Newsfeed
