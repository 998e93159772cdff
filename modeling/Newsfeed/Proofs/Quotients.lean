import Mathlib.Tactic.Ring
import Mathlib.Tactic.Linarith
import Newsfeed.Double

/-! # Whole numbers around a rounded quotient

A quotient is rounded to a double before its whole part is taken, and rounding could carry it over
the next whole number or over the next half. It does not as long as the double has a bit to tell the
quotient from what comes next, which is at least a `d`-th, or half of it, away.

* `Double.nearestEven_bounds`: rounding is off by half at most;
* `Double.div_two_pow_nearestEven`: halves of a rounded number, as often as there are bits to spare,
  are those of the exact one;
* `Double.floor_quotient`, `Double.round_quotient`: below `2 ^ 51` the whole part of a rounded quotient
  and its nearest whole number are those of the exact quotient.
-/

namespace Newsfeed.Double

/-- Rounding is off by half at most. -/
theorem nearestEven_bounds {d : Nat} (hd : 0 < d) (n : Nat) :
    2 * n ≤ 2 * (d * nearestEven n d) + d ∧ 2 * (d * nearestEven n d) ≤ 2 * n + d := by
  have hsplit : d * (n / d) + n % d = n := Nat.div_add_mod n d
  have hrest : n % d < d := Nat.mod_lt n hd
  have hup : d * (n / d + 1) = d * (n / d) + d := Nat.mul_succ _ _
  unfold nearestEven
  dsimp only
  split
  · omega
  · rw [hup]
    omega

/-- Rounding a quotient of `t` bits behind the point does not change its whole part, if these bits
tell a `d`-th from nothing. -/
theorem div_two_pow_nearestEven {n d t : Nat} (hd : 0 < d) (hbits : d < 2 ^ (t + 1)) :
    nearestEven (n * 2 ^ t) d / 2 ^ t = n / d := by
  have hpow : 0 < 2 ^ t := Nat.two_pow_pos t
  have hlow : d * (n / d) ≤ n := Nat.mul_div_le n d
  have hhigh : n + 1 ≤ d * (n / d + 1) := Nat.lt_mul_div_succ n hd
  obtain ⟨hle, hge⟩ := nearestEven_bounds hd (n * 2 ^ t)
  generalize nearestEven (n * 2 ^ t) d = m at hle hge
  generalize n / d = q at hlow hhigh
  rw [Nat.pow_succ] at hbits
  -- both neighbours are whole, so half a step cannot lead past them
  apply Nat.div_eq_of_lt_le
  · by_contra hlt
    have hm : d * (m + 1) ≤ d * (q * 2 ^ t) := Nat.mul_le_mul_left d (by omega)
    have hn : d * q * 2 ^ t ≤ n * 2 ^ t := Nat.mul_le_mul_right _ hlow
    nlinarith
  · by_contra hlt
    have hm : d * ((q + 1) * 2 ^ t) ≤ d * m := Nat.mul_le_mul_left d (by omega)
    have hn : (n + 1) * 2 ^ t ≤ d * (q + 1) * 2 ^ t := Nat.mul_le_mul_right _ hhigh
    nlinarith

/-- With a power of two that is not positive, the whole part is a matter of a shift. -/
theorem floor_of_neg (m k : Nat) : floor ⟨m, -(k : Nat)⟩ = m / 2 ^ k := by
  have hup : (-(k : Nat) : Int).toNat = 0 := by omega
  have hdown : (- -(k : Nat) : Int).toNat = k := by omega
  rw [floor, hup, hdown, Nat.shiftLeft_zero, Nat.shiftRight_eq_div_pow]

variable {n d : Nat}

/-- Below `2 ^ 51`, a rounded quotient has two bits more than a `d`-th needs. -/
theorem exists_quotient_eq (hn : n < 2 ^ 51) (d : Nat) :
    ∃ s : Nat, quotient n d = ⟨nearestEven (n * 2 ^ (s + 1)) d, -(s + 1 : Nat)⟩ ∧
      d < 2 ^ (s + 1) := by
  have hlog : n.log2 ≤ 50 := by
    by_cases hzero : n = 0
    · rw [hzero]
      decide
    · have hlt := (Nat.log2_lt hzero).mpr hn
      omega
  have hexponent : quotientExponent n d ≤ -(d.log2 + 2 : Nat) := by
    unfold quotientExponent
    dsimp only
    split <;> omega
  obtain ⟨s, hs⟩ : ∃ s : Nat, quotientExponent n d = -(s + 1 : Nat) :=
    ⟨(-quotientExponent n d).toNat - 1, by omega⟩
  have hup : (-(s + 1 : Nat) : Int).toNat = 0 := by omega
  have hdown : (- -(s + 1 : Nat) : Int).toNat = s + 1 := by omega
  refine ⟨s, ?_, ?_⟩
  · simp only [quotient, hs, hup, hdown, Nat.shiftLeft_eq, Nat.pow_zero, Nat.mul_one]
  · calc d < 2 ^ (d.log2 + 1) := Nat.lt_log2_self
      _ ≤ 2 ^ (s + 1) := Nat.pow_le_pow_right (by decide) (by omega)

/-- The whole part of a rounded quotient is that of the exact one. -/
theorem floor_quotient (hn : n < 2 ^ 51) (hd : 0 < d) : (quotient n d).floor = n / d := by
  obtain ⟨s, hquotient, hbits⟩ := exists_quotient_eq hn d
  have hwide : d < 2 ^ (s + 1 + 1) :=
    hbits.trans (Nat.pow_lt_pow_right (by decide) (Nat.lt_succ_self _))
  rw [hquotient, floor_of_neg, div_two_pow_nearestEven hd hwide]

/-- So is the whole part of its double. -/
theorem floor_twice_quotient (hn : n < 2 ^ 51) (hd : 0 < d) :
    (quotient n d).twice.floor = 2 * n / d := by
  obtain ⟨s, hquotient, hbits⟩ := exists_quotient_eq hn d
  have hexponent : (-(s + 1 : Nat) : Int) + 1 = -(s : Nat) := by omega
  have hdouble : n * 2 ^ (s + 1) = 2 * n * 2 ^ s := by ring
  rw [hquotient, twice, hexponent, floor_of_neg, hdouble, div_two_pow_nearestEven hd hbits]

/-- The whole number nearest to a rounded quotient is the one nearest to the exact quotient. -/
theorem round_quotient (hn : n < 2 ^ 51) (hd : 0 < d) :
    (quotient n d).round = (2 * n + d) / (2 * d) := by
  rw [round, floor_twice_quotient hn hd, ← Nat.add_div_right (2 * n) hd, Nat.div_div_eq_div_mul,
    Nat.mul_comm d 2]

end Newsfeed.Double
