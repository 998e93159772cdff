import Newsfeed.Display
import Newsfeed.Proofs.StoredForm

/-! # Publish times

A publish time is read as the raw text of an instant or as its RFC 3339 text on some clock. Both texts
are calendar and clock fields in the same row, with a different mark between date and clock, and the
mark keeps either text from being read in the layout of the other.

* `Text.IsTrimmed`: texts that blanks around them can be trimmed from;
* `RawLayout.read?_writeRaw`: what is read from the raw text of an instant;
* `Rfc3339.read?_writeRfc3339`: what is read from its text on a clock that shows a year of four digits;
* `publish_times_read_back`: when it is the instant again, without its fraction.
-/

namespace Newsfeed

/-! ## Blanks around a text -/

namespace Text

/-- No blank stands at either end of the text. -/
structure IsTrimmed (s : List Char) : Prop where
  head : ∀ c, s.head? = some c → isBlank c = false
  last : ∀ c, s.getLast? = some c → isBlank c = false

theorem trimStart_of_head {s : List Char} (h : ∀ c, s.head? = some c → isBlank c = false) :
    trimStart s = s := by
  cases s with
  | nil => rfl
  | cons c s => rw [trimStart, List.dropWhile_cons_of_neg (by simp [h c rfl])]

/-- Blanks behind a text that ends in no blank are trimmed. -/
theorem trimEnd_append_blank {s after : List Char}
    (hs : ∀ c, s.getLast? = some c → isBlank c = false) (hafter : isAllBlank after = true) :
    trimEnd (s ++ after) = s := by
  have hblank : ∀ c ∈ after.reverse, isBlank c = true := by
    simpa [isAllBlank] using hafter
  have hstart : s.reverse.dropWhile isBlank = s.reverse := by
    refine trimStart_of_head fun c hc => hs c ?_
    rwa [List.head?_reverse] at hc
  rw [trimEnd, List.reverse_append, List.dropWhile_append_of_pos hblank, hstart,
    List.reverse_reverse]

/-- Blanks around a text are trimmed. -/
theorem trim_padded {before s after : List Char} (hs : IsTrimmed s)
    (hbefore : isAllBlank before = true) (hafter : isAllBlank after = true) :
    trim (before ++ (s ++ after)) = s := by
  rw [trim_blank_append _ hbefore]
  cases s with
  | nil => exact trim_of_all_blank hafter
  | cons c s =>
    have hstart : trimStart (c :: s ++ after) = c :: s ++ after :=
      trimStart_of_head fun d hd => hs.head d (by simpa using hd)
    rw [trim, hstart, trimEnd_append_blank hs.last hafter]

end Text

/-! ## Fields in a row -/

namespace Instant

variable (t : Instant) (offset : Int)

theorem nano_truncate : t.truncate.nano = if t.isLeap then nanosPerSecond else 0 := rfl

theorem isLeap_truncate : t.truncate.isLeap = t.isLeap := by
  rw [isLeap, nano_truncate]
  cases t.isLeap <;> rfl

theorem leapEndsMinute_truncate : t.truncate.LeapEndsMinute ↔ t.LeapEndsMinute := by
  unfold LeapEndsMinute
  rw [isLeap_truncate]
  exact Iff.rfl

/-- Clocks show an instant without its fraction exactly if a leap second, if any, ends a minute. -/
theorem carried_truncate_iff : t.truncate.carried = t.truncate ↔ t.LeapEndsMinute :=
  (carried_eq_self_iff _).trans t.leapEndsMinute_truncate

/-- The clock shows no fraction of a second where the fraction is dropped. -/
theorem localTime_truncate : t.truncate.localTime offset = { t.localTime offset with nano := 0 } := by
  have hnano : t.truncate.nano % nanosPerSecond = 0 := by
    rw [nano_truncate]
    cases t.isLeap <;> rfl
  simp only [localTime, isLeap_truncate, hnano]
  rfl

/-- The raw text is what calendar and clock show at UTC. -/
theorem writeRaw_eq_write : t.writeRaw = (t.localTime 0).write ' ' [] := by
  simp only [writeRaw, writeDate, writeClock, LocalTime.write, localTime, localDay_zero,
    localSecond_zero, date, List.append_assoc, List.cons_append, List.append_nil]

theorem writeRfc3339_eq_write :
    t.writeRfc3339 offset = (t.localTime offset).write 'T' (writeOffset offset) := by
  simp only [writeRfc3339, writeDate, writeClock, LocalTime.write, localTime, localDay,
    localSecond, List.append_assoc, List.cons_append]

end Instant

theorem exists_writeYear_eq_cons (y : Int) :
    ∃ c s, writeYear y = c :: s ∧ Text.isBlank c = false := by
  unfold writeYear
  split
  case isTrue =>
    obtain ⟨d, ds, hds⟩ := List.exists_cons_of_ne_nil (paddedDigits_ne_nil 4 y.toNat)
    have hd : d.isDigit = true := (writes_paddedDigits 4 y.toNat).isDigit d (hds ▸ List.mem_cons_self)
    exact ⟨d, ds, hds, isBlank_of_isDigit hd⟩
  case isFalse =>
    -- a sign is no blank either
    refine ⟨_, _, rfl, ?_⟩
    split <;> decide

/-- A digit ends the row, if nothing else does. -/
theorem LocalTime.getLast?_write (l : LocalTime) (mark : Char) (rest : List Char) :
    (l.write mark rest).getLast? = rest.getLast?.or (some (Nat.digitChar (l.second % 10))) := by
  have hlast : (twoDigits l.second).getLast? = some (Nat.digitChar (l.second % 10)) := rfl
  simp only [write, List.getLast?_append, List.getLast?_cons, hlast]
  cases rest.getLast? <;> rfl

theorem isBlank_digitChar {n : Nat} (hn : n < 10) : Text.isBlank (Nat.digitChar n) = false :=
  isBlank_of_isDigit (by rw [Nat.isDigit_digitChar, decide_eq_true hn])

/-- Fields in a row have blanks at neither end, if a digit ends what follows. -/
theorem LocalTime.isTrimmed_write (l : LocalTime) (mark : Char) {rest : List Char}
    (hrest : ∀ c, rest.getLast? = some c → Text.isBlank c = false) :
    Text.IsTrimmed (l.write mark rest) where
  head := by
    intro c hc
    obtain ⟨d, ds, hds, hd⟩ := exists_writeYear_eq_cons l.date.year
    rw [write, hds, List.cons_append, List.head?_cons, Option.some.injEq] at hc
    rwa [← hc]
  last := by
    intro c hc
    rw [getLast?_write] at hc
    cases hlast : rest.getLast? with
    | none =>
      rw [hlast, Option.none_or, Option.some.injEq] at hc
      rw [← hc]
      exact isBlank_digitChar (Nat.mod_lt _ (by decide))
    | some d => exact hrest c (by rw [hlast, ← hc, hlast, Option.some_or])

/-! ## The raw layout -/

namespace Reader

variable {α β : Type}

theorem bind_none {r : Reader α} {f : α → Reader β} {s : List Char} (h : r s = none) :
    (r >>= f) s = none := by
  show (r s).bind (fun p => f p.1 p.2) = none
  rw [h]
  rfl

/-- Where neither a blank nor a digit stands, there is no field. -/
theorem field_of_not_isDigit {c : Char} (hblank : Text.isBlank c = false)
    (hdigit : c.isDigit = false) (s : List Char) : field (c :: s) = none := by
  have hrun : digitRun 1 2 (c :: s) = none := by
    rw [digitRun, List.take_succ_cons, List.takeWhile_cons_of_neg (by simp [hdigit])]
    rfl
  rw [field, bind_eq (blanks_eq hblank s), digits, map_eq_pure_bind, bind_none hrun]

theorem field_space (s : List Char) : field (' ' :: s) = field s := rfl

/-- Two digits are read as they were written, whatever follows. -/
theorem digits_twoDigits {n : Nat} (hn : n < 100) (rest : List Char) :
    digits 2 2 (twoDigits n ++ rest) = some (n, rest) :=
  digits_append (writes_twoDigits hn) (Nat.le_refl 2) (Nat.le_refl 2) (Or.inl rfl)

end Reader

namespace RawLayout

open Reader

/-- A date and a clock with a blank between them are read as they were written. -/
theorem fields_write {l : LocalTime} (h : l.FitsTwoDigits) :
    fields (l.write ' ' []) = some ({ l with nano := 0, offset := 0 }, []) := by
  rw [LocalTime.write, fields,
    bind_eq (year_writeYear _ (endsDigits_cons (by decide) _)), bind_eq (char_eq _ _),
    bind_eq (field_twoDigits h.month_lt _), bind_eq (char_eq _ _),
    bind_eq (field_twoDigits h.day_lt _),
    bind_eq ((field_space _).trans (field_twoDigits h.hour_lt _)), bind_eq (char_eq _ _),
    bind_eq (field_twoDigits h.minute_lt _), bind_eq (char_eq _ _),
    bind_eq (field_twoDigits h.second_lt _), pure_eq]

/-- The raw layout has blanks between date and clock, and nothing else. -/
theorem fields_write_of_mark {l : LocalTime} (h : l.FitsTwoDigits) {mark : Char}
    (hblank : Text.isBlank mark = false) (hdigit : mark.isDigit = false) (rest : List Char) :
    fields (l.write mark rest) = none := by
  rw [LocalTime.write, fields,
    bind_eq (year_writeYear _ (endsDigits_cons (by decide) _)), bind_eq (char_eq _ _),
    bind_eq (field_twoDigits h.month_lt _), bind_eq (char_eq _ _),
    bind_eq (field_twoDigits h.day_lt _), bind_none (field_of_not_isDigit hblank hdigit _)]

/-- The raw text of an instant loses the fraction of its second, and shows what is left. -/
theorem read?_writeRaw (t : Instant) : read? t.writeRaw = some t.truncate.carried := by
  have hall : Reader.all fields t.writeRaw = some (t.truncate.localTime 0) := by
    rw [Reader.all, t.writeRaw_eq_write, fields_write (t.fitsTwoDigits_localTime 0),
      t.localTime_truncate]
    rfl
  have hinstant : (t.truncate.localTime 0).toInstant? = some t.truncate.carried :=
    t.truncate.toInstant?_localTime 0 (by decide)
      (by rw [Instant.localDay_zero]; exact t.first_day_le)
      (by rw [Instant.localDay_zero]; exact t.day_le_last)
  rw [read?, hall, Option.bind_eq_bind, Option.bind_some, hinstant]

end RawLayout

/-! ## RFC 3339 -/

namespace Rfc3339

open Reader

/-- A sign is no letter for UTC, and an offset follows it. -/
theorem zone_sign {sign : Char} (hsign : sign ∈ ['+', '-']) {n : Nat} (hn : n < 1440)
    (rest : List Char) :
    orElse zulu (offset (char ':'))
        (sign :: (twoDigits (n / 60) ++ ':' :: (twoDigits (n % 60) ++ rest))) =
      some (if sign = '+' then (n : Int) else -(n : Int), rest) := by
  have hzulu : ∀ s, zulu (sign :: s) = none := by
    intro s
    rcases List.mem_pair.mp hsign with rfl | rfl <;> rfl
  have hsigns : ['+', '-', '−'].contains sign = true := by
    rcases List.mem_pair.mp hsign with rfl | rfl <;> rfl
  have hcheck : ∀ s, check (decide (n % 60 < 60)) s = some ((), s) := by
    intro s
    rw [decide_eq_true (Nat.mod_lt n (by decide))]
    rfl
  have htotal : ((n / 60 * 60 + n % 60 : Nat) : Int) = n := by omega
  simp only [orElse, hzulu]
  rw [offset, bind_eq (oneOf_eq hsigns _), bind_eq (digits_twoDigits (by omega) _),
    bind_eq (char_eq _ _), bind_eq (digits_twoDigits (by omega) _), bind_eq (hcheck _), pure_eq,
    htotal]

theorem writeOffset_eq_cons (ahead : Int) :
    writeOffset ahead = (if ahead < 0 then '-' else '+') ::
      (twoDigits (ahead.natAbs / 60) ++ ':' :: (twoDigits (ahead.natAbs % 60) ++ [])) := by
  simp only [writeOffset, List.cons_append, List.append_nil]

/-- An offset is read as it was written. -/
theorem zone_writeOffset {ahead : Int} (h : ahead.natAbs < 1440) :
    orElse zulu (offset (char ':')) (writeOffset ahead) = some (ahead, []) := by
  rw [writeOffset_eq_cons]
  by_cases hneg : ahead < 0
  · have hvalue : -(ahead.natAbs : Int) = ahead := by omega
    rw [if_pos hneg, zone_sign (by decide) h, if_neg (by decide), hvalue]
  · have hvalue : (ahead.natAbs : Int) = ahead := by omega
    rw [if_neg hneg, zone_sign (by decide) h, if_pos rfl, hvalue]

/-- No point follows the clock. -/
theorem optionalFraction_writeOffset (ahead : Int) :
    optionalFraction (writeOffset ahead) = some (0, writeOffset ahead) := by
  rw [writeOffset_eq_cons]
  exact optionalFraction_cons (by split <;> decide) _

/-- The year has exactly four digits. -/
theorem digits_writeYear {y : Int} (hfirst : 0 ≤ y) (hlast : y ≤ 9999) (rest : List Char) :
    digits 4 4 (writeYear y ++ rest) = some (y.toNat, rest) := by
  have hlength : (paddedDigits 4 y.toNat).length = 4 := length_paddedDigits (by decide) (by omega)
  rw [writeYear, if_pos ⟨hfirst, hlast⟩]
  exact digits_append (writes_paddedDigits 4 _) hlength.ge hlength.le (Or.inl hlength)

/-- Fields with an offset are read as they were written. -/
theorem fields_write {l : LocalTime} (h : l.FitsTwoDigits) (hfirst : 0 ≤ l.date.year)
    (hlast : l.date.year ≤ 9999) (hoffset : l.offset.natAbs < 1440) :
    fields (l.write 'T' (writeOffset l.offset)) = some ({ l with nano := 0 }, []) := by
  rw [LocalTime.write, fields,
    bind_eq (digits_writeYear hfirst hlast _), bind_eq (char_eq _ _),
    bind_eq (digits_twoDigits h.month_lt _), bind_eq (char_eq _ _),
    bind_eq (digits_twoDigits h.day_lt _), bind_eq (oneOf_eq (by decide) _),
    bind_eq (digits_twoDigits h.hour_lt _), bind_eq (char_eq _ _),
    bind_eq (digits_twoDigits h.minute_lt _), bind_eq (char_eq _ _),
    bind_eq (digits_twoDigits h.second_lt _), bind_eq (optionalFraction_writeOffset _),
    bind_eq (zone_writeOffset hoffset), pure_eq, Int.toNat_of_nonneg hfirst]

/-- A year of four digits lies in the calendar of instants. -/
theorem day_mem_range {n : Int} (hfirst : 0 ≤ (Date.ofDayNumber n).year)
    (hlast : (Date.ofDayNumber n).year ≤ 9999) : -96465292 ≤ n ∧ n ≤ 95026236 := by
  have hday := Date.day_le_of_isValid (Date.isValid_ofDayNumber n)
  -- a date has a day number that is linear in its fields, up to leap days
  rw [← Date.dayNumber_ofDayNumber n]
  generalize Date.ofDayNumber n = d at *
  simp only [Date.dayNumber, Date.daysBeforeMonth, Date.epochOffset]
  split <;> omega

/-- The text of an instant on a clock that shows a year of four digits loses and shows the same. -/
theorem read?_writeRfc3339 (t : Instant) {ahead : Int} (hoffset : ahead.natAbs < 1440)
    (hfirst : 0 ≤ (t.localTime ahead).date.year) (hlast : (t.localTime ahead).date.year ≤ 9999) :
    read? (t.writeRfc3339 ahead) = some t.truncate.carried := by
  have hall : Reader.all fields (t.writeRfc3339 ahead) = some (t.truncate.localTime ahead) := by
    rw [Reader.all, t.writeRfc3339_eq_write ahead,
      show writeOffset ahead = writeOffset (t.localTime ahead).offset from rfl,
      fields_write (t.fitsTwoDigits_localTime ahead) hfirst hlast hoffset, t.localTime_truncate]
  obtain ⟨hday, hday'⟩ := day_mem_range hfirst hlast
  rw [read?, hall, Option.bind_eq_bind, Option.bind_some,
    t.truncate.toInstant?_localTime ahead hoffset hday hday']

end Rfc3339

/-! ## Publish times -/

theorem readPublishTime?_eq (text : String) :
    readPublishTime? text =
      (RawLayout.read? (Text.trim text.toList)).or (Rfc3339.read? (Text.trim text.toList)) := by
  rw [readPublishTime?]
  cases RawLayout.read? (Text.trim text.toList) <;> rfl

section Padded

variable {before after : String} (hbefore : Config.isBlankText before = true)
  (hafter : Config.isBlankText after = true) (t : Instant)

include hbefore hafter

theorem trim_padded_write (l : LocalTime) (mark : Char) {rest : List Char}
    (hrest : ∀ c, rest.getLast? = some c → Text.isBlank c = false) :
    Text.trim (before ++ String.ofList (l.write mark rest) ++ after).toList = l.write mark rest := by
  rw [String.toList_append, String.toList_append, String.toList_ofList, List.append_assoc]
  exact Text.trim_padded (l.isTrimmed_write mark hrest) hbefore hafter

theorem readPublishTime?_writeRaw :
    readPublishTime? (before ++ String.ofList t.writeRaw ++ after) = some t.truncate.carried := by
  have hend : ∀ c, ([] : List Char).getLast? = some c → Text.isBlank c = false := by
    intro c hc
    cases hc
  have htrim := trim_padded_write hbefore hafter (t.localTime 0) ' ' hend
  rw [readPublishTime?_eq, t.writeRaw_eq_write, htrim, ← t.writeRaw_eq_write,
    RawLayout.read?_writeRaw, Option.some_or]

theorem readPublishTime?_writeRfc3339 {ahead : Int} (hoffset : ahead.natAbs < 1440)
    (hfirst : 0 ≤ (t.localTime ahead).date.year) (hlast : (t.localTime ahead).date.year ≤ 9999) :
    readPublishTime? (before ++ String.ofList (t.writeRfc3339 ahead) ++ after) =
      some t.truncate.carried := by
  have hend : ∀ c, (writeOffset ahead).getLast? = some c → Text.isBlank c = false := by
    intro c hc
    have hdigit : (writeOffset ahead).getLast? = some (Nat.digitChar (ahead.natAbs % 60 % 10)) := rfl
    rw [hdigit, Option.some.injEq] at hc
    rw [← hc]
    exact isBlank_digitChar (Nat.mod_lt _ (by decide))
  have htrim := trim_padded_write hbefore hafter (t.localTime ahead) 'T' hend
  -- the raw layout stops at the letter before the clock
  have hraw : RawLayout.read? (t.writeRfc3339 ahead) = none := by
    rw [t.writeRfc3339_eq_write, RawLayout.read?, Reader.all,
      RawLayout.fields_write_of_mark (t.fitsTwoDigits_localTime ahead) (by decide) (by decide)]
    rfl
  rw [readPublishTime?_eq, t.writeRfc3339_eq_write, htrim, ← t.writeRfc3339_eq_write, hraw,
    Option.none_or, Rfc3339.read?_writeRfc3339 t hoffset hfirst hlast]

end Padded

/-- The publish time that is written for an instant is read as the instant without its fraction, a
leap second as the leap second, exactly if that second ends a minute. So is the RFC 3339 text of an
instant of a whole second, on every clock that shows a year of four digits, and both layouts agree on
every such instant. Blanks around the texts do not matter. -/
theorem publish_times_read_back :
    (∀ (t : Instant) (it : Item) (before after : String),
      Config.isBlankText before = true → Config.isBlankText after = true →
        (readPublishTime? (before ++ (it.published t).publishTime ++ after) = some t.truncate ↔
          t.LeapEndsMinute)) ∧
    (∀ (t : Instant) (ahead : Int) (it : Item) (before after : String),
      Config.isBlankText before = true → Config.isBlankText after = true →
      t.truncate = t → ahead.natAbs < 24 * 60 →
      0 ≤ (t.localTime ahead).date.year → (t.localTime ahead).date.year ≤ 9999 →
        (readPublishTime? (before ++ String.ofList (t.writeRfc3339 ahead) ++ after) = some t ↔
          t.LeapEndsMinute) ∧
        readPublishTime? (before ++ String.ofList (t.writeRfc3339 ahead) ++ after) =
          readPublishTime? (before ++ (it.published t).publishTime ++ after)) := by
  have hraw : ∀ (t : Instant) (it : Item) (before after : String),
      Config.isBlankText before = true → Config.isBlankText after = true →
        readPublishTime? (before ++ (it.published t).publishTime ++ after) =
          some t.truncate.carried := by
    intro t it before after hbefore hafter
    exact readPublishTime?_writeRaw hbefore hafter t
  constructor
  · intro t it before after hbefore hafter
    rw [hraw t it before after hbefore hafter, Option.some.injEq, t.carried_truncate_iff]
  · intro t ahead it before after hbefore hafter hwhole hoffset hfirst hlast
    have hstrict := readPublishTime?_writeRfc3339 hbefore hafter t hoffset hfirst hlast
    rw [hraw t it before after hbefore hafter, hstrict, hwhole, Option.some.injEq]
    exact ⟨t.carried_eq_self_iff, rfl⟩

/-- The leap second at the end of 2016, a quarter of which is over. -/
def sampleLeapSecond : Instant :=
  ⟨17166, 86399, 1250000000, by decide, by decide, by decide, by decide⟩

theorem publish_times_read_back_sample :
    (Item.article "" "").published sampleLeapSecond =
        { Item.article "" "" with publishTime := "2016-12-31 23:59:60" } ∧
      String.ofList (sampleLeapSecond.truncate.writeRfc3339 330) = "2017-01-01T05:29:60+05:30" ∧
      readPublishTime? " 2016-12-31 23:59:60\t" = some sampleLeapSecond.truncate ∧
      readPublishTime? "2017-01-01T05:29:60+05:30" = some sampleLeapSecond.truncate := by
  obtain ⟨hraw, hstrict⟩ := publish_times_read_back
  have htext : (Item.article "" "").published sampleLeapSecond =
      { Item.article "" "" with publishTime := "2016-12-31 23:59:60" } := by decide
  have hclock : String.ofList (sampleLeapSecond.truncate.writeRfc3339 330) =
      "2017-01-01T05:29:60+05:30" := by decide
  have hread := (hraw sampleLeapSecond (Item.article "" "") " " "\t" (by decide) (by decide)).mpr
    (by decide)
  have hread' := (hstrict sampleLeapSecond.truncate 330 (Item.article "" "") "" "" (by decide)
    (by decide) (by decide) (by decide) (by decide) (by decide)).1.mpr (by decide)
  rw [htext] at hread
  rw [hclock] at hread'
  exact ⟨htext, hclock, hread, hread'⟩

/-- What is written for a leap second at noon shows the next second, and is read as that one. -/
theorem leap_at_noon_not_read_back :
    ((Item.article "" "").published .leapAtNoon).publishTime = "2020-04-20 12:00:01" ∧
      readPublishTime? "2020-04-20 12:00:01" = Instant.of? 18372 43201 0 ∧
      readPublishTime? ((Item.article "" "").published .leapAtNoon).publishTime ≠
        some Instant.leapAtNoon.truncate := by
  have htext : ((Item.article "" "").published .leapAtNoon).publishTime = "2020-04-20 12:00:01" := by
    decide
  have hread : readPublishTime? "2020-04-20 12:00:01" = Instant.of? 18372 43201 0 := by
    decide
  refine ⟨htext, hread, ?_⟩
  rw [htext, hread]
  decide

end Newsfeed
