import Mathlib.Algebra.Group.Nat.Defs
import Mathlib.Data.List.Basic
import Newsfeed.Time.Fields

/-! # Numbers that are written and read

Times are written as numbers of fixed or growing width with a character between them. A reader that
comes upon a number that was written takes it as a whole, for one of two reasons: it takes no more
digits than there are, or no digit follows.

* `Writes`: digits that stand for a number, with `writes_paddedDigits` and `writes_twoDigits`;
* `Reader.bind_eq`: how a reader goes on after its first part;
* `Reader.digits_append`, `Reader.anyDigits_append`: reading the digits of a number.
-/

namespace Newsfeed

/-! ## Digits of a number -/

/-- The characters are decimal digits, and they stand for the number. -/
structure Writes (ds : List Char) (n : Nat) : Prop where
  isDigit : ∀ d ∈ ds, d.isDigit = true
  numeral_eq : Reader.numeral ds = n

theorem writes_toDigits (n : Nat) : Writes (Nat.toDigits 10 n) n where
  isDigit := fun _ hd => Nat.isDigit_of_mem_toDigits (by decide) (by decide) hd
  numeral_eq := Nat.ofDigitChars_ten_toDigits

/-- Zeros in front of a number do not change it. -/
theorem writes_paddedDigits (width n : Nat) : Writes (paddedDigits width n) n where
  isDigit := by
    intro d hd
    rcases List.mem_append.mp hd with hzero | hdigit
    · rw [List.eq_of_mem_replicate hzero]
      rfl
    · exact (writes_toDigits n).isDigit d hdigit
  numeral_eq := by
    show Nat.ofDigitChars 10 (paddedDigits width n) 0 = n
    rw [paddedDigits, Nat.ofDigitChars_append, Nat.ofDigitChars_replicate_zero, Nat.mul_zero]
    exact Nat.ofDigitChars_ten_toDigits

theorem paddedDigits_ne_nil (width n : Nat) : paddedDigits width n ≠ [] := by
  have hpos : 0 < (Nat.toDigits 10 n).length := Nat.length_toDigits_pos
  apply List.ne_nil_of_length_pos
  rw [paddedDigits, List.length_append]
  omega

/-- A number that the width holds is written in exactly that width. -/
theorem length_paddedDigits {width n : Nat} (hwidth : 0 < width) (hn : n < 10 ^ width) :
    (paddedDigits width n).length = width := by
  have hle : (Nat.toDigits 10 n).length ≤ width :=
    (Nat.length_toDigits_le_iff (by decide) hwidth).mpr hn
  rw [paddedDigits, List.length_append, List.length_replicate]
  omega

theorem writes_twoDigits {n : Nat} (hn : n < 100) : Writes (twoDigits n) n where
  isDigit := by
    intro d hd
    rcases List.mem_pair.mp hd with rfl | rfl
    · rw [Nat.isDigit_digitChar, decide_eq_true_eq]
      omega
    · rw [Nat.isDigit_digitChar, decide_eq_true_eq]
      omega
  numeral_eq := by
    show Nat.ofDigitChars 10 (twoDigits n) 0 = n
    rw [twoDigits, Nat.ofDigitChars_cons_digitChar_of_lt_ten (by omega),
      Nat.ofDigitChars_cons_digitChar_of_lt_ten (by omega), Nat.ofDigitChars_nil]
    omega

/-- No digit comes next in a text. -/
def EndsDigits (s : List Char) : Prop := ∀ c, s.head? = some c → c.isDigit = false

theorem endsDigits_nil : EndsDigits [] := by
  intro c hc
  cases hc

theorem endsDigits_cons {c : Char} (hc : c.isDigit = false) (s : List Char) :
    EndsDigits (c :: s) := by
  intro d hd
  rw [List.head?_cons, Option.some.injEq] at hd
  rw [← hd]
  exact hc

theorem EndsDigits.take {s : List Char} (h : EndsDigits s) (n : Nat) : EndsDigits (s.take n) := by
  intro c hc
  rw [List.head?_take] at hc
  split at hc
  · cases hc
  · exact h c hc

theorem EndsDigits.takeWhile {s : List Char} (h : EndsDigits s) : s.takeWhile Char.isDigit = [] := by
  cases s with
  | nil => rfl
  | cons c s => rw [List.takeWhile_cons_of_neg (by simp [h c rfl])]

theorem EndsDigits.dropWhile {s : List Char} (h : EndsDigits s) : s.dropWhile Char.isDigit = s := by
  cases s with
  | nil => rfl
  | cons c s => rw [List.dropWhile_cons_of_neg (by simp [h c rfl])]

theorem takeWhile_isDigit_append {ds rest : List Char} (hds : ∀ d ∈ ds, d.isDigit = true)
    (hrest : EndsDigits rest) : (ds ++ rest).takeWhile Char.isDigit = ds := by
  rw [List.takeWhile_append_of_pos hds, hrest.takeWhile, List.append_nil]

/-! ## Readers -/

/-- A digit is no blank. -/
theorem isBlank_of_isDigit {c : Char} (hc : c.isDigit = true) : Text.isBlank c = false := by
  simp only [Char.isDigit, Bool.and_eq_true, decide_eq_true_eq] at hc
  obtain ⟨hlow, hhigh⟩ := hc
  have hlow' : 0x30 ≤ c.toNat := hlow
  have hhigh' : c.toNat ≤ 0x39 := hhigh
  simp only [Text.isBlank, Bool.or_eq_false_iff, Bool.and_eq_false_iff, decide_eq_false_iff_not,
    beq_eq_false_iff_ne]
  omega

namespace Reader

variable {α β : Type}

/-- A reader goes on where its first part has stopped. -/
theorem bind_eq {r : Reader α} {f : α → Reader β} {s rest : List Char} {a : α}
    (h : r s = some (a, rest)) : (r >>= f) s = f a rest := by
  show (r s).bind (fun p => f p.1 p.2) = f a rest
  rw [h]
  rfl

theorem map_eq {r : Reader α} {f : α → β} {s rest : List Char} {a : α}
    (h : r s = some (a, rest)) : (f <$> r) s = some (f a, rest) := by
  show (r s).bind (fun p => some (f p.1, p.2)) = some (f a, rest)
  rw [h]
  rfl

theorem pure_eq (a : α) (s : List Char) : (pure a : Reader α) s = some (a, s) := rfl

theorem blanks_eq {c : Char} (hc : Text.isBlank c = false) (s : List Char) :
    blanks (c :: s) = some ((), c :: s) := by
  rw [blanks, skip, List.dropWhile_cons_of_neg (by simp [hc])]

theorem blanks_nil : blanks [] = some ((), []) := rfl

theorem blanks_digits {ds : List Char} (hds : ∀ d ∈ ds, d.isDigit = true) (hne : ds ≠ [])
    (rest : List Char) : blanks (ds ++ rest) = some ((), ds ++ rest) := by
  cases ds with
  | nil => exact absurd rfl hne
  | cons d ds => exact blanks_eq (isBlank_of_isDigit (hds d List.mem_cons_self)) _

theorem char_eq (c : Char) (s : List Char) : char c (c :: s) = some ((), s) := by
  rw [char, if_pos rfl]

/-- The run of digits ends at its limit or where no digit follows. -/
theorem digitRun_append {least most : Nat} {ds rest : List Char}
    (hds : ∀ d ∈ ds, d.isDigit = true) (hleast : least ≤ ds.length) (hmost : ds.length ≤ most)
    (hend : ds.length = most ∨ EndsDigits rest) :
    digitRun least most (ds ++ rest) = some (ds, rest) := by
  have hrun : ((ds ++ rest).take most).takeWhile Char.isDigit = ds := by
    rw [List.take_append, List.take_of_length_le hmost]
    rcases hend with hfull | hstop
    · rw [hfull, Nat.sub_self, List.take_zero]
      exact takeWhile_isDigit_append hds endsDigits_nil
    · exact takeWhile_isDigit_append hds (hstop.take _)
  rw [digitRun, hrun, if_neg (by omega), List.drop_left]

theorem digits_append {least most : Nat} {ds rest : List Char} {n : Nat} (h : Writes ds n)
    (hleast : least ≤ ds.length) (hmost : ds.length ≤ most)
    (hend : ds.length = most ∨ EndsDigits rest) :
    digits least most (ds ++ rest) = some (n, rest) := by
  rw [digits, map_eq (digitRun_append h.isDigit hleast hmost hend), h.numeral_eq]

theorem anyDigits_append {ds rest : List Char} {n : Nat} (h : Writes ds n) (hne : ds ≠ [])
    (hend : EndsDigits rest) : anyDigits (ds ++ rest) = some (n, rest) := by
  rw [anyDigits, takeWhile_isDigit_append h.isDigit hend, List.drop_left, h.numeral_eq,
    if_neg (by simpa using hne)]

end Reader

end Newsfeed
