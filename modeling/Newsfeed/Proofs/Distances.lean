import Mathlib.Order.Monotone.Basic
import Newsfeed.Proofs.Quotients
import Newsfeed.Proofs.WrittenNumbers
import Newsfeed.Time.Distance

/-! # Distances in words

A distance is reckoned in double precision, but instants are never so far apart that this shows: the
words are those of exact arithmetic. The buckets follow upon each other and no two distances share
their text, so a longer distance never reads as a shorter one.

* `Distance.Bucket`: the limits of the buckets in exact arithmetic, with `bucket_between`;
* `Distance.text_injective`: two distances read the same only if they are the same;
* `Distance.link`: the chain of all distances that are ever told, with `Bucket.link_position`;
* `Distance.Bucket.position_le`: more minutes never lead back along the chain;
* `distances_in_words`: the words for the distance between any two instants.
-/

namespace Newsfeed

/-! ## How far apart instants are -/

/-- Instants are never apart by more seconds than a double tells from each other. -/
theorem Instant.secondsApart_lt (x y : Instant) : x.secondsApart y < 2 ^ 44 := by
  have hx := x.first_day_le
  have hx' := x.day_le_last
  have hy := y.first_day_le
  have hy' := y.day_le_last
  have hsecond := x.second_lt
  have hsecond' := y.second_lt
  have hnano := x.nano_lt
  have hnano' := y.nano_lt
  have hleap : -1 ≤ x.leapBetween y ∧ x.leapBetween y ≤ 1 := by
    unfold leapBetween
    split <;> split <;> (try split) <;> omega
  have hspan : (x.since y).nanos.natAbs < 2 ^ 44 * nanosPerSecond := by
    simp only [since, Span.ofSeconds]
    unfold secondsPerDay nanosPerSecond at *
    omega
  have hwhole : x.secondsApart y = (x.since y).nanos.natAbs / nanosPerSecond :=
    Int.natAbs_tdiv _ _
  rw [hwhole]
  exact Nat.div_lt_of_lt_mul (by rwa [Nat.mul_comm])

namespace Distance

/-! ## Exact arithmetic -/

/-- To the nearest unit is down to a unit from half a unit more. -/
theorem nearest_eq {amount unit half : Nat} (hamount : amount < 2 ^ 51) (hhalf : 0 < half)
    (hunit : unit = 2 * half) : nearest amount unit = (amount + half) / unit := by
  have hround : nearest amount unit = (2 * amount + unit) / (2 * unit) :=
    Double.round_quotient hamount (by omega)
  have hdouble : 2 * amount + unit = 2 * (amount + half) := by omega
  rw [hround, hdouble, Nat.mul_div_mul_left _ _ (by decide)]

theorem wholes_eq {amount unit : Nat} (hamount : amount < 2 ^ 51) (hunit : 0 < unit) :
    wholes amount unit = amount / unit :=
  Double.floor_quotient hamount hunit

/-- The bucket of a number of minutes in exact arithmetic, by its limits. -/
inductive Bucket : Nat → Distance → Prop
  | underMinute : Bucket 0 underMinute
  | minutes {m : Nat} : 1 ≤ m → m < 45 → Bucket m (minutes m)
  | hour {m : Nat} : 45 ≤ m → m < 90 → Bucket m (aboutHours 1)
  | hours {m : Nat} : 90 ≤ m → m < 1440 → Bucket m (aboutHours ((m + 30) / 60))
  | day {m : Nat} : 1440 ≤ m → m < 2520 → Bucket m (days 1)
  | days {m : Nat} : 2520 ≤ m → m < 43200 → Bucket m (days ((m + 720) / 1440))
  | aboutMonths {m : Nat} : 43200 ≤ m → m < 86400 → Bucket m (aboutMonths ((m + 21600) / 43200))
  | months {m : Nat} : 86400 ≤ m → m / 43200 < 12 → Bucket m (months ((m + 21600) / 43200))
  | aboutYears {m : Nat} : 12 ≤ m / 43200 → m / 43200 % 12 < 3 →
      Bucket m (aboutYears (m / 43200 / 12))
  | overYears {m : Nat} : 12 ≤ m / 43200 → 3 ≤ m / 43200 % 12 → m / 43200 % 12 < 9 →
      Bucket m (overYears (m / 43200 / 12))
  | almostYears {m : Nat} : 12 ≤ m / 43200 → 9 ≤ m / 43200 % 12 →
      Bucket m (almostYears (m / 43200 / 12 + 1))

/-- Double precision puts a number of minutes into its bucket. -/
theorem bucket_ofMinutes {m : Nat} (hm : m < 2 ^ 51) : Bucket m (ofMinutes m) := by
  have hhours : nearest m minutesInHour = (m + 30) / 60 := nearest_eq hm (by decide) rfl
  have hdays : nearest m minutesInDay = (m + 720) / 1440 := nearest_eq hm (by decide) rfl
  have hmonths : nearest m minutesInMonth = (m + 21600) / 43200 := nearest_eq hm (by decide) rfl
  have hwhole : wholes m minutesInMonth = m / 43200 := wholes_eq hm (by decide)
  rw [ofMinutes, ofMonths, hhours, hdays, hmonths, hwhole, minutesInDay, minutesInMonth]
  -- the limits are asked for one after the other
  refine iteInduction (motive := Bucket m) (fun h => h ▸ .underMinute) fun h => ?_
  refine iteInduction (motive := Bucket m) (.minutes (by omega)) fun h => ?_
  refine iteInduction (motive := Bucket m) (.hour (by omega)) fun h => ?_
  refine iteInduction (motive := Bucket m) (.hours (by omega)) fun h => ?_
  refine iteInduction (motive := Bucket m) (.day (by omega)) fun h => ?_
  refine iteInduction (motive := Bucket m) (.days (by omega)) fun h => ?_
  refine iteInduction (motive := Bucket m) (.aboutMonths (by omega)) fun h => ?_
  refine iteInduction (motive := Bucket m) (.months (by omega)) fun h => ?_
  refine iteInduction (motive := Bucket m) (.aboutYears (by omega)) fun h => ?_
  refine iteInduction (motive := Bucket m) (.overYears (by omega) (by omega)) fun h => ?_
  exact .almostYears (by omega) (by omega)

/-- A number of seconds is in the bucket of its minutes. -/
theorem bucket_ofSeconds {s : Nat} (hs : s < 2 ^ 51) : Bucket ((s + 30) / 60) (ofSeconds s) := by
  have hminutes : nearest s 60 = (s + 30) / 60 := nearest_eq hs (by decide) rfl
  rw [ofSeconds, hminutes]
  exact bucket_ofMinutes (by omega)

/-- The distance between two instants is in the bucket of their minutes. -/
theorem bucket_between (a b : Instant) : Bucket ((a.secondsApart b + 30) / 60) (between a b) := by
  have hapart := a.secondsApart_lt b
  rw [between, Instant.secondsApart_comm b a]
  exact bucket_ofSeconds (by omega)

/-! ## Texts -/

/-- What a distance with a count is told by: the word before the count, the count and its unit. -/
structure Wording where
  lead : String
  count : Nat
  unit : String

/-- The parts of the words for a distance; the shortest one has no count. -/
def wording? : Distance → Option Wording
  | underMinute => none
  | minutes n => some ⟨"", n, "minute"⟩
  | aboutHours n => some ⟨"about ", n, "hour"⟩
  | days n => some ⟨"", n, "day"⟩
  | aboutMonths n => some ⟨"about ", n, "month"⟩
  | months n => some ⟨"", n, "month"⟩
  | aboutYears n => some ⟨"about ", n, "year"⟩
  | overYears n => some ⟨"over ", n, "year"⟩
  | almostYears n => some ⟨"almost ", n, "year"⟩

theorem wording?_injective {d e : Distance} (h : d.wording? = e.wording?) : d = e := by
  cases d <;> cases e <;> simp_all [wording?]

theorem text_of_wording? {d : Distance} {w : Wording} (h : d.wording? = some w) :
    d.text = w.lead ++ counted w.count w.unit := by
  cases d <;> cases h <;> simp [text]

theorem text_of_no_wording {d : Distance} (h : d.wording? = none) : d.text = "less than a minute" := by
  cases d <;> cases h
  rfl

theorem lead_mem {d : Distance} {w : Wording} (h : d.wording? = some w) :
    w.lead ∈ ["", "about ", "over ", "almost "] := by
  cases d <;> cases h <;> simp

/-- The word before a count has no digit. -/
theorem not_isDigit_of_mem_lead {d : Distance} {w : Wording} (h : d.wording? = some w) :
    ∀ c ∈ w.lead.toList, c.isDigit = false := by
  have hall : ["", "about ", "over ", "almost "].all (·.toList.all (!·.isDigit)) = true := by decide
  have hlead := List.all_eq_true.mp hall w.lead (lead_mem h)
  simpa using hlead

theorem toList_counted (n : Nat) (unit : String) :
    (counted n unit).toList =
      Nat.toDigits 10 n ++ ' ' :: (unit.toList ++ if n = 1 then [] else ['s']) := by
  unfold counted
  split
  case isTrue hone =>
    rw [hone]
    simp
    rfl
  case isFalse => simp

/-- Around a number that starts the digits of a text, the parts of the text are determined. -/
theorem parts_of_append_toDigits_eq {lead lead' rest rest' : List Char} {n n' : Nat}
    (hlead : ∀ c ∈ lead, c.isDigit = false) (hlead' : ∀ c ∈ lead', c.isDigit = false)
    (h : lead ++ (Nat.toDigits 10 n ++ ' ' :: rest) = lead' ++ (Nat.toDigits 10 n' ++ ' ' :: rest')) :
    lead = lead' ∧ n = n' ∧ rest = rest' := by
  -- the lead is what comes before the first digit
  have hspan : ∀ (l r : List Char) (m : Nat), (∀ c ∈ l, c.isDigit = false) →
      (l ++ (Nat.toDigits 10 m ++ ' ' :: r)).takeWhile (!·.isDigit) = l := by
    intro l r m hl
    obtain ⟨d, ds, hds⟩ := List.exists_cons_of_ne_nil (@Nat.toDigits_ne_nil m 10)
    have hd : d.isDigit = true := (writes_toDigits m).isDigit d (hds ▸ List.mem_cons_self)
    rw [List.takeWhile_append_of_pos (by simpa using hl), hds, List.cons_append,
      List.takeWhile_cons_of_neg (by simp [hd]), List.append_nil]
  have hleads : lead = lead' := by
    rw [← hspan lead rest n hlead, h, hspan lead' rest' n' hlead']
  rw [hleads, List.append_cancel_left_eq] at h
  -- and the digits end at the blank
  have hend : ∀ r : List Char, EndsDigits (' ' :: r) := endsDigits_cons (by decide)
  have hdigits : Nat.toDigits 10 n = Nat.toDigits 10 n' := by
    rw [← takeWhile_isDigit_append (writes_toDigits n).isDigit (hend rest), h,
      takeWhile_isDigit_append (writes_toDigits n').isDigit (hend rest')]
  have hn : n = n' := by
    rw [← (writes_toDigits n).numeral_eq, hdigits, (writes_toDigits n').numeral_eq]
  rw [hdigits, List.append_cancel_left_eq] at h
  exact ⟨hleads, hn, (List.cons.inj h).2⟩

/-- The words with a count tell its parts. -/
theorem wording_of_text_eq {d e : Distance} {v w : Wording} (hd : d.wording? = some v)
    (he : e.wording? = some w) (h : d.text = e.text) : v = w := by
  have hletters := congrArg String.toList h
  rw [text_of_wording? hd, text_of_wording? he, String.toList_append, String.toList_append,
    toList_counted, toList_counted] at hletters
  obtain ⟨hlead, hcount, hrest⟩ := parts_of_append_toDigits_eq (not_isDigit_of_mem_lead hd)
    (not_isDigit_of_mem_lead he) hletters
  rw [hcount, List.append_cancel_right_eq] at hrest
  cases v
  cases w
  simp_all [String.toList_inj]

/-- The words with a count have a digit. -/
theorem text_ne_underMinute {d : Distance} {w : Wording} (h : d.wording? = some w) :
    d.text ≠ "less than a minute" := by
  intro htext
  obtain ⟨c, ds, hds⟩ := List.exists_cons_of_ne_nil (@Nat.toDigits_ne_nil w.count 10)
  have hc : c.isDigit = true := (writes_toDigits w.count).isDigit c (hds ▸ List.mem_cons_self)
  have hmem : c ∈ d.text.toList := by
    rw [text_of_wording? h, String.toList_append, toList_counted, hds]
    simp
  have hnone : "less than a minute".toList.all (!·.isDigit) = true := by decide
  rw [htext] at hmem
  have hnot := List.all_eq_true.mp hnone c hmem
  rw [hc] at hnot
  cases hnot

/-- Two distances read the same only if they are the same. -/
theorem text_injective : Function.Injective text := by
  intro d e h
  apply wording?_injective
  cases hd : d.wording? with
  | none =>
    cases he : e.wording? with
    | none => rfl
    | some w => exact absurd (h.symm.trans (text_of_no_wording hd)) (text_ne_underMinute he)
  | some v =>
    cases he : e.wording? with
    | none => exact absurd (h.trans (text_of_no_wording he)) (text_ne_underMinute hd)
    | some w => rw [wording_of_text_eq hd he h]

/-! ## The chain -/

/-- The distances in their order, from the shortest on: 44 numbers of minutes, 24 of hours, 30 of
days, one and two months told with care, eleven numbers of months, and then each year as about,
over, and almost the next. -/
def link (i : Nat) : Distance :=
  if i = 0 then underMinute
  else if i < 45 then minutes i
  else if i < 69 then aboutHours (i - 44)
  else if i < 99 then days (i - 68)
  else if i < 101 then aboutMonths (i - 98)
  else if i < 112 then months (i - 99)
  else if i % 3 = 1 then aboutYears ((i - 109) / 3)
  else if i % 3 = 2 then overYears ((i - 109) / 3)
  else almostYears ((i - 109) / 3 + 1)

/-- Where in the chain a distance stands. -/
def position : Distance → Nat
  | underMinute => 0
  | minutes n => n
  | aboutHours n => n + 44
  | days n => n + 68
  | aboutMonths n => n + 98
  | months n => n + 99
  | aboutYears n => 3 * n + 109
  | overYears n => 3 * n + 110
  | almostYears n => 3 * n + 108

theorem position_link (i : Nat) : (link i).position = i := by
  fun_cases link i <;> simp only [position] <;> omega

theorem link_injective : Function.Injective link :=
  Function.LeftInverse.injective position_link

/-- Every distance that is told stands in the chain. -/
theorem Bucket.link_position {m : Nat} {d : Distance} (h : Bucket m d) : link d.position = d := by
  cases h with
  | underMinute | hour | day => rfl
  | aboutYears | overYears | almostYears =>
    -- years come in threes, and the remainder tells which of them it is
    rw [position, link]
    simp (disch := omega) only [if_pos, if_neg]
    congr 1
    omega
  | _ =>
    rw [position, link]
    simp (disch := omega) only [if_pos, if_neg, Nat.add_sub_cancel]

example : [0, 1, 44, 45, 68, 69, 98, 99, 100, 101, 111, 112, 113, 114, 115].map
      (fun i => (link i).text) =
    ["less than a minute", "1 minute", "44 minutes", "about 1 hour", "about 24 hours", "1 day",
      "30 days", "about 1 month", "about 2 months", "2 months", "12 months", "about 1 year",
      "over 1 year", "almost 2 years", "about 2 years"] := by
  decide

/-- More minutes lead on along the chain, or nowhere. -/
theorem Bucket.position_le {m m' : Nat} {d d' : Distance} (h : Bucket m d) (h' : Bucket m' d')
    (hle : m ≤ m') : d.position ≤ d'.position := by
  cases h <;> cases h' <;> simp only [position] <;> omega

/-! ## Numbers and their words -/

/-- The words for a number of minutes, in exact arithmetic. Only months and years are told both in
the singular and in the plural. -/
def wordsOfMinutes (m : Nat) : String :=
  let wholeMonths := m / 43200
  let nearestMonths := (m + 21600) / 43200
  if m = 0 then "less than a minute"
  else if m = 1 then "1 minute"
  else if m < 45 then toString m ++ " minutes"
  else if m < 90 then "about 1 hour"
  else if m < 1440 then "about " ++ toString ((m + 30) / 60) ++ " hours"
  else if m < 2520 then "1 day"
  else if m < 43200 then toString ((m + 720) / 1440) ++ " days"
  else if m < 86400 then "about " ++ counted nearestMonths "month"
  else if wholeMonths < 12 then toString nearestMonths ++ " months"
  else if wholeMonths % 12 < 3 then "about " ++ counted (wholeMonths / 12) "year"
  else if wholeMonths % 12 < 9 then "over " ++ counted (wholeMonths / 12) "year"
  else "almost " ++ toString (wholeMonths / 12 + 1) ++ " years"

/-- The text has no count, or it has a positive one with its unit, which is plural unless the count
is one. -/
def HasAgreement (text : String) : Prop :=
  text = "less than a minute" ∨
    ∃ lead ∈ ["", "about ", "over ", "almost "],
      ∃ unit ∈ ["minute", "hour", "day", "month", "year"], ∃ n : Nat, 1 ≤ n ∧
        text = lead ++ toString n ++ " " ++ unit ++ if n = 1 then "" else "s"

theorem counted_one (unit : String) : counted 1 unit = "1 " ++ unit := rfl

theorem counted_of_ne {n : Nat} (hn : n ≠ 1) (unit : String) :
    counted n unit = toString n ++ " " ++ unit ++ "s" :=
  if_neg hn

/-- A bucket is told in the words for its numbers of minutes. -/
theorem Bucket.text_eq {m : Nat} {d : Distance} (h : Bucket m d) : d.text = wordsOfMinutes m := by
  cases h with
  | underMinute => rfl
  | minutes _ _ =>
    obtain rfl | hm := eq_or_ne m 1
    · rfl
    · rw [text, wordsOfMinutes]
      simp (disch := omega) only [counted_of_ne, if_pos, if_neg, String.append_assoc,
        String.reduceAppend]
  | hour _ _ | day _ _ =>
    rw [text, wordsOfMinutes, counted_one]
    simp (disch := omega) only [if_pos, if_neg, String.reduceAppend]
  | _ =>
    -- wherever the words have no singular, the limits of the bucket keep the count from being one
    rw [text, wordsOfMinutes]
    simp (disch := omega) only [counted_of_ne, if_pos, if_neg, String.append_assoc,
      String.reduceAppend]

theorem Bucket.count_pos {m : Nat} {d : Distance} {w : Wording} (h : Bucket m d)
    (hw : d.wording? = some w) : 1 ≤ w.count := by
  cases h <;> cases hw <;> simp only <;> omega

theorem unit_mem {d : Distance} {w : Wording} (h : d.wording? = some w) :
    w.unit ∈ ["minute", "hour", "day", "month", "year"] := by
  cases d <;> cases h <;> simp

theorem counted_eq_append (n : Nat) (unit : String) :
    counted n unit = toString n ++ " " ++ unit ++ if n = 1 then "" else "s" := by
  obtain rfl | hn := eq_or_ne n 1
  · rw [counted_one, if_pos rfl, String.append_empty]
    rfl
  · rw [counted_of_ne hn, if_neg hn]

theorem Bucket.hasAgreement {m : Nat} {d : Distance} (h : Bucket m d) : HasAgreement d.text := by
  cases hd : d.wording? with
  | none => exact .inl (text_of_no_wording hd)
  | some w =>
    refine .inr ⟨w.lead, lead_mem hd, w.unit, unit_mem hd, w.count, h.count_pos hd, ?_⟩
    rw [text_of_wording? hd, counted_eq_append]
    simp only [String.append_assoc]

end Distance

open Distance

/-- The words for the distance of two instants are those of exact arithmetic for its seconds, taken
to the nearest minute. They do not depend on the order of the instants and agree in number, and a
longer distance never leads back along the chain, no two of whose distances read the same. -/
theorem distances_in_words :
    (∀ a b : Instant, (between a b).text = wordsOfMinutes ((a.secondsApart b + 30) / 60)) ∧
    (∀ a b : Instant, (between a b).text = (between b a).text) ∧
    (∀ a b : Instant, HasAgreement (between a b).text) ∧
    (∀ a b a' b' : Instant, a.secondsApart b ≤ a'.secondsApart b' →
      ∃ i j, i ≤ j ∧ (between a b).text = (link i).text ∧ (between a' b').text = (link j).text) ∧
    Function.Injective fun i => (link i).text := by
  refine ⟨fun a b => (bucket_between a b).text_eq, fun a b => ?_, fun a b => ?_,
    fun a b a' b' hle => ?_, text_injective.comp link_injective⟩
  · rw [between_comm]
  · exact (bucket_between a b).hasAgreement
  · have hminutes : (a.secondsApart b + 30) / 60 ≤ (a'.secondsApart b' + 30) / 60 := by omega
    refine ⟨(between a b).position, (between a' b').position,
      (bucket_between a b).position_le (bucket_between a' b') hminutes, ?_, ?_⟩
    · rw [(bucket_between a b).link_position]
    · rw [(bucket_between a' b').link_position]

/-- The start of the day that comes so many days after 1 January 1970. -/
def sampleDay (days : Fin 1000) : Instant :=
  { Instant.epoch with
    day := days
    first_day_le := by omega
    day_le_last := by omega }

theorem distances_in_words_sample :
    (between (sampleDay 359) (sampleDay 0)).text = "12 months" ∧
      (between (sampleDay 360) (sampleDay 0)).text = "about 1 year" ∧
      ∃ i j, i ≤ j ∧ (between (sampleDay 359) (sampleDay 0)).text = (link i).text ∧
        (between (sampleDay 360) (sampleDay 0)).text = (link j).text := by
  obtain ⟨hwords, -, -, hforward, -⟩ := distances_in_words
  refine ⟨?_, ?_, hforward (sampleDay 359) (sampleDay 0) (sampleDay 360) (sampleDay 0) (by decide)⟩
  · rw [hwords]
    decide
  · rw [hwords]
    decide

end Newsfeed
