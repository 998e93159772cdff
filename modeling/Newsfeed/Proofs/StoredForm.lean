import Newsfeed.Proofs.LocalClock
import Newsfeed.Proofs.WrittenNumbers
import Newsfeed.Time.StoredForm

/-! # Instants in their stored form

The stored text of an instant is a row of numbers, and each field is read back as it was written: the
year with or without a sign, the clock with second 60 for a leap second, the fraction in the width
that it needs. The fields are those of the clock at UTC, so what they stand for is the instant that
this clock shows.

* `Reader.year_writeYear`, `Reader.field_twoDigits`, `Reader.optionalFraction_writeFraction`: one
  field;
* `LocalTime.write`: the row of fields that every written time begins with;
* `StoredForm.read?_writeStored`: what is read from the stored text of an instant;
* `StoredForm.leapEndsMinute_of_read?`: no leap second is read but at the end of a minute.
-/

namespace Newsfeed

/-! ## Fields -/

namespace Reader

theorem peek_eq (s : List Char) : peek s = some (s.head?, s) := rfl

/-- A year that begins with a digit has at most four of them. -/
theorem year_of_isDigit {d : Char} (hd : d.isDigit = true) {s rest : List Char} {n : Nat}
    (h : digits 1 4 (d :: s) = some (n, rest)) : year (d :: s) = some ((n : Int), rest) := by
  have hminus : d ≠ '-' := by
    rintro rfl
    exact absurd hd (by decide)
  have hplus : d ≠ '+' := by
    rintro rfl
    exact absurd hd (by decide)
  unfold year
  rw [bind_eq (blanks_eq (isBlank_of_isDigit hd) s), bind_eq (peek_eq _)]
  simp only [List.head?_cons, Option.some.injEq, hminus, hplus, imp_self]
  rw [bind_eq h, pure_eq]

theorem year_minus {s rest : List Char} {n : Nat} (h : anyDigits s = some (n, rest)) :
    year ('-' :: s) = some (-(n : Int), rest) := by
  unfold year
  rw [bind_eq (blanks_eq (by decide) s), bind_eq (peek_eq _)]
  show (char '-' >>= _) _ = _
  rw [bind_eq (char_eq _ s), bind_eq h, pure_eq]

theorem year_plus {s rest : List Char} {n : Nat} (h : anyDigits s = some (n, rest)) :
    year ('+' :: s) = some ((n : Int), rest) := by
  unfold year
  rw [bind_eq (blanks_eq (by decide) s), bind_eq (peek_eq _)]
  show (char '+' >>= _) _ = _
  rw [bind_eq (char_eq _ s), bind_eq h, pure_eq]

/-- A year is read as it was written, if no digit follows. -/
theorem year_writeYear (y : Int) {rest : List Char} (hrest : EndsDigits rest) :
    year (writeYear y ++ rest) = some (y, rest) := by
  have hwrites := fun n => writes_paddedDigits 4 n
  have hne := fun n => paddedDigits_ne_nil 4 n
  unfold writeYear
  split
  case isTrue hrange =>
    -- four digits are read even if more of them follow
    have hlength : (paddedDigits 4 y.toNat).length = 4 :=
      length_paddedDigits (by decide) (by omega)
    have hdigits : digits 1 4 (paddedDigits 4 y.toNat ++ rest) = some (y.toNat, rest) :=
      digits_append (hwrites _) (by omega) (by omega) (Or.inl hlength)
    obtain ⟨d, ds, hds⟩ := List.exists_cons_of_ne_nil (hne y.toNat)
    have hd : d.isDigit = true := (hwrites y.toNat).isDigit d (hds ▸ List.mem_cons_self)
    rw [hds, List.cons_append] at hdigits ⊢
    rw [year_of_isDigit hd hdigits, Int.toNat_of_nonneg hrange.1]
  case isFalse hrange =>
    -- the sign tells that all digits belong to the year
    have hdigits : anyDigits (paddedDigits 4 y.natAbs ++ rest) = some (y.natAbs, rest) :=
      anyDigits_append (hwrites _) (hne _) hrest
    by_cases hneg : y < 0
    · have hy : -((y.natAbs : Nat) : Int) = y := by omega
      rw [if_pos hneg, List.cons_append, year_minus hdigits, hy]
    · have hy : ((y.natAbs : Nat) : Int) = y := by omega
      rw [if_neg hneg, List.cons_append, year_plus hdigits, hy]

/-- A field of two digits is read as it was written, whatever follows. -/
theorem field_twoDigits {n : Nat} (hn : n < 100) (rest : List Char) :
    field (twoDigits n ++ rest) = some (n, rest) := by
  have hwrites := writes_twoDigits hn
  have hlength : (twoDigits n).length = 2 := rfl
  rw [field, bind_eq (blanks_digits hwrites.isDigit (List.cons_ne_nil _ _) rest)]
  exact digits_append hwrites (by omega) (by omega) (Or.inl hlength)

/-- Zeros that fill a fraction up to nine digits scale it to nanoseconds. -/
theorem numeral_rightpad {ds : List Char} {n : Nat} (h : Writes ds n) (width : Nat) :
    numeral (ds.rightpad width '0') = n * 10 ^ (width - ds.length) := by
  show Nat.ofDigitChars 10 _ 0 = _
  rw [List.rightpad, Nat.ofDigitChars_append, Nat.ofDigitChars_replicate_zero]
  rw [show Nat.ofDigitChars 10 ds 0 = n from h.numeral_eq, Nat.mul_comm]

/-- A fraction of one to nine digits is read as it was written, if no digit follows. -/
theorem fraction_paddedDigits {width n : Nat} (hwidth : 1 ≤ width) (hle : width ≤ 9)
    (hn : n < 10 ^ width) {rest : List Char} (hrest : EndsDigits rest) :
    fraction (paddedDigits width n ++ rest) = some (n * 10 ^ (9 - width), rest) := by
  have hwrites := writes_paddedDigits width n
  have hlength : (paddedDigits width n).length = width := length_paddedDigits hwidth hn
  have hrun : digitRun 1 9 (paddedDigits width n ++ rest) = some (paddedDigits width n, rest) :=
    digitRun_append hwrites.isDigit (by omega) (by omega) (Or.inr hrest)
  have hskip : skip Char.isDigit rest = some ((), rest) := by
    rw [skip, hrest.dropWhile]
  have hvalue : numeral ((paddedDigits width n).rightpad 9 '0') = n * 10 ^ (9 - width) := by
    rw [numeral_rightpad hwrites, hlength]
  rw [fraction, bind_eq hrun, bind_eq hskip, pure_eq, hvalue]

/-- Where no point stands, there is no fraction. -/
theorem optionalFraction_cons {c : Char} (hpoint : c ≠ '.') (rest : List Char) :
    optionalFraction (c :: rest) = some (0, c :: rest) := by
  unfold optionalFraction
  rw [bind_eq (peek_eq _)]
  simp only [List.head?_cons, Option.some.injEq, hpoint, imp_self]
  rfl

theorem optionalFraction_point (s : List Char) : optionalFraction ('.' :: s) = fraction s := rfl

/-- A fraction of a second is read as it was written. -/
theorem optionalFraction_writeFraction {nano : Nat} (hnano : nano < nanosPerSecond)
    {c : Char} (hdigit : c.isDigit = false) (hpoint : c ≠ '.') (rest : List Char) :
    optionalFraction (writeFraction nano ++ c :: rest) = some (nano, c :: rest) := by
  have hrest : EndsDigits (c :: rest) := endsDigits_cons hdigit rest
  unfold nanosPerSecond at hnano
  unfold writeFraction
  -- in each width, the digits that are left out are zeros
  split
  case isTrue hzero => rw [List.nil_append, optionalFraction_cons hpoint, hzero]
  case isFalse =>
    split
    case isTrue hmillis =>
      have hscale : nano / 1000000 * 10 ^ (9 - 3) = nano := by omega
      rw [List.cons_append, optionalFraction_point,
        fraction_paddedDigits (by decide) (by decide) (by omega) hrest, hscale]
    case isFalse =>
      split
      case isTrue hmicros =>
        have hscale : nano / 1000 * 10 ^ (9 - 6) = nano := by omega
        rw [List.cons_append, optionalFraction_point,
          fraction_paddedDigits (by decide) (by decide) (by omega) hrest, hscale]
      case isFalse =>
        have hscale : nano * 10 ^ (9 - 9) = nano := by omega
        rw [List.cons_append, optionalFraction_point,
          fraction_paddedDigits (by decide) (by decide) (by omega) hrest, hscale]

theorem oneOf_eq {c : Char} {cs : List Char} (hc : cs.contains c = true) (s : List Char) :
    oneOf cs (c :: s) = some (c, s) := by
  show (if cs.contains c then some (c, s) else none) = some (c, s)
  rw [if_pos hc]

end Reader

/-! ## Fields in a row -/

namespace LocalTime

/-- Date and clock with a mark between them, and what follows. -/
def write (l : LocalTime) (mark : Char) (rest : List Char) : List Char :=
  writeYear l.date.year ++ '-' :: (twoDigits l.date.month ++ '-' :: (twoDigits l.date.day ++
    mark :: (twoDigits l.hour ++ ':' :: (twoDigits l.minute ++ ':' :: (twoDigits l.second ++ rest)))))

/-- Two digits hold each field but the year. -/
structure FitsTwoDigits (l : LocalTime) : Prop where
  month_lt : l.date.month < 100
  day_lt : l.date.day < 100
  hour_lt : l.hour < 100
  minute_lt : l.minute < 100
  second_lt : l.second < 100

end LocalTime

theorem Instant.fitsTwoDigits_localTime (t : Instant) (offset : Int) :
    (t.localTime offset).FitsTwoDigits where
  month_lt := (Date.month_le_of_isValid (Date.isValid_ofDayNumber _)).trans_lt (by decide)
  day_lt := (Date.day_le_of_isValid (Date.isValid_ofDayNumber _)).trans_lt (by decide)
  hour_lt := by
    have hsecond := t.localSecond_lt offset
    unfold secondsPerDay at hsecond
    simp only [localTime]
    omega
  minute_lt := by
    simp only [localTime]
    omega
  second_lt := by
    simp only [localTime]
    split <;> omega

/-- The stored text is what calendar and clock show at UTC, with the fraction and the zone. -/
theorem Instant.writeStored_eq_write (t : Instant) :
    t.writeStored =
      (t.localTime 0).write 'T' (writeFraction (t.nano % nanosPerSecond) ++ ['Z']) := by
  simp only [writeStored, writeDate, writeClock, LocalTime.write, localTime, localDay_zero,
    localSecond_zero, date, List.append_assoc, List.cons_append]

/-! ## The whole text -/

namespace StoredForm

open Reader

theorem separator_eq {c : Char} (hc : Text.isBlank c = false) (s : List Char) :
    separator c (c :: s) = some ((), s) := by
  rw [separator, bind_eq (blanks_eq hc s), char_eq]

theorem zone_zulu (s : List Char) : zone ('Z' :: s) = some (0, s) := rfl

/-- The fields of a stored text are those that calendar and clock show at UTC. -/
theorem fields_writeStored (t : Instant) : fields t.writeStored = some (t.localTime 0, []) := by
  have h := t.fitsTwoDigits_localTime 0
  have hnano : t.nano % nanosPerSecond < nanosPerSecond := Nat.mod_lt _ (by decide)
  rw [t.writeStored_eq_write, LocalTime.write, fields,
    bind_eq (year_writeYear _ (endsDigits_cons (by decide) _)), bind_eq (separator_eq (by decide) _),
    bind_eq (field_twoDigits h.month_lt _), bind_eq (separator_eq (by decide) _),
    bind_eq (field_twoDigits h.day_lt _), bind_eq (oneOf_eq (by decide) _),
    bind_eq (field_twoDigits h.hour_lt _), bind_eq (separator_eq (by decide) _),
    bind_eq (field_twoDigits h.minute_lt _), bind_eq (separator_eq (by decide) _),
    bind_eq (field_twoDigits h.second_lt _),
    bind_eq (optionalFraction_writeFraction hnano (by decide) (by decide) _),
    bind_eq (blanks_eq (by decide) _), bind_eq (zone_zulu _), bind_eq blanks_nil, pure_eq]
  rfl

/-- What is read from the stored text of an instant is what clocks show of it. -/
theorem read?_writeStored (t : Instant) : read? t.writeStored = some t.carried := by
  have hall : Reader.all fields t.writeStored = some (t.localTime 0) := by
    rw [Reader.all, fields_writeStored]
  have hinstant : (t.localTime 0).toInstant? = some t.carried :=
    t.toInstant?_localTime 0 (by decide) (by rw [t.localDay_zero]; exact t.first_day_le)
      (by rw [t.localDay_zero]; exact t.day_le_last)
  rw [read?, hall, Option.bind_eq_bind, Option.bind_some, hinstant]

theorem leapEndsMinute_of_read? {s : List Char} {t : Instant} (h : read? s = some t) :
    t.LeapEndsMinute := by
  obtain ⟨l, -, hl⟩ := Option.bind_eq_some_iff.mp h
  exact LocalTime.leapEndsMinute_of_toInstant? hl

end StoredForm

end Newsfeed
