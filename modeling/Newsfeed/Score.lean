/-!
# Scores

A relevance score is an IEEE double carried by its bits, so that every score (the signed zeros and
every NaN included) is told apart from every other and keeps a fixed place in the ranking.

* `Score.place` : the position of a score in the total order of doubles: the negative NaNs, then
  the numbers from minus to plus infinity, then the positive NaNs; `place` is injective.
* `Score.TotalLE` : the same order, told by sign and magnitude (`place_le_place_iff`).
* `Score.sub` : the subtraction of IEEE arithmetic, with the sign of a NaN result fixed.
* `Score.ofDecimal?` : the double nearest to a decimal number, refused beyond the largest double.
-/

namespace Newsfeed

/-- A relevance score: the bits of an IEEE double. -/
structure Score where
  bits : UInt64
deriving DecidableEq, Repr, Inhabited

namespace Score

/-- The score of a number of Lean's own `Float`. -/
def ofFloat (x : Float) : Score := ⟨x.toBits⟩

/-- The number that a score stands for. -/
def toFloat (s : Score) : Float := Float.ofBits s.bits

/-- Zero with a plus sign. -/
def zero : Score := ⟨0⟩

/-- The sign bit as a number. -/
def signBit : Nat := 0x8000000000000000

/-- The bits without the sign; they grow with the absolute value. -/
def magnitude (s : Score) : Nat := s.bits.toNat % signBit

/-- Whether the sign bit is set. -/
def isNegative (s : Score) : Bool := signBit ≤ s.bits.toNat

/-- The magnitude of the two infinities; every larger one belongs to a NaN. -/
def infinite : Nat := 0x7ff0000000000000

/-- Whether the bits are those of a NaN. -/
def isNaN (s : Score) : Bool := infinite < s.magnitude

/-- Whether the score is a number other than the infinities. -/
def isFinite (s : Score) : Bool := s.magnitude < infinite

/-- Place in the total order: negative scores below zero, the larger magnitude first, and minus
zero just below zero. -/
def place (s : Score) : Int :=
  if s.isNegative then -(s.magnitude : Int) - 1 else s.magnitude

/-- The total order of doubles, told by sign and magnitude: a minus sign stands before a plus sign,
and below a minus sign the larger magnitude comes first. -/
def TotalLE (a b : Score) : Prop :=
  match a.isNegative, b.isNegative with
  | true, false => True
  | false, true => False
  | true, true => b.magnitude ≤ a.magnitude
  | false, false => a.magnitude ≤ b.magnitude

/-- Equality of numbers: a NaN differs from everything, the two zeros are equal. -/
def sameNumber (a b : Score) : Bool :=
  !a.isNaN && !b.isNaN && (a == b || (a.magnitude == 0 && b.magnitude == 0))

/-- The sign bit flipped. -/
def negate (s : Score) : Score := ⟨s.bits ^^^ 0x8000000000000000⟩

/-- A NaN with its quiet bit set, sign and payload kept. -/
def quiet (s : Score) : Score := ⟨s.bits ||| 0x0008000000000000⟩

/-- Difference of two scores. A NaN operand is handed on (the left one first); the difference of
two equal infinities is the NaN with a minus sign. -/
def sub (a b : Score) : Score :=
  if a.isNaN then a.quiet
  else if b.isNaN then b.quiet
  else if a.magnitude = infinite ∧ a = b then ⟨0xfff8000000000000⟩
  else ofFloat (a.toFloat - b.toFloat)

instance : Sub Score := ⟨sub⟩

/-- Size of `digits * 10 ^ exponent` beyond which no double lies, judged by powers of two: since
`8 ^ n ≤ 10 ^ n`, such a number is at least `2 ^ 1024`. -/
def isBeyondRange (digits : Nat) (exponent : Int) : Bool :=
  0 ≤ exponent && 1024 ≤ digits.log2 + 3 * exponent

/-- Size of `digits * 10 ^ exponent` below which every double is zero: under `2 ^ (-1080)`. -/
def isBelowRange (digits : Nat) (exponent : Int) : Bool :=
  exponent < 0 && digits.log2 + 1 + 3 * exponent < -1080

/-- The double nearest to `digits * 10 ^ exponent` with the given sign, ties to even; `none` when
the number rounds to an infinity. -/
def ofDecimal? (negative : Bool) (digits : Nat) (exponent : Int) : Option Score :=
  let sign (s : Score) : Score := if negative then s.negate else s
  if digits = 0 ∨ isBelowRange digits exponent then some (sign zero)
  else if isBeyondRange digits exponent then none
  else
    let s := ofFloat (Float.ofScientific digits (exponent < 0) exponent.natAbs)
    if s.isFinite then some (sign s) else none

/-- The double nearest to an integer of at most 64 bits. -/
def ofInt (n : Int) : Score :=
  (ofDecimal? (n < 0) n.natAbs 0).getD zero

/-- The bits of a score are its magnitude with the sign bit on top. -/
theorem toNat_bits (s : Score) :
    s.bits.toNat = s.magnitude + (if s.isNegative then signBit else 0) := by
  have h := s.bits.toNat_lt
  unfold magnitude isNegative signBit
  by_cases hs : 0x8000000000000000 ≤ s.bits.toNat
  · rw [if_pos (decide_eq_true hs)]
    omega
  · rw [if_neg (mt of_decide_eq_true hs)]
    omega

/-- Places are in the total order. -/
theorem place_le_place_iff {a b : Score} : a.place ≤ b.place ↔ a.TotalLE b := by
  unfold place TotalLE
  cases ha : a.isNegative <;> cases hb : b.isNegative <;>
    simp only [if_true, if_false, Bool.false_eq_true, iff_true, iff_false] <;> omega

instance (a b : Score) : Decidable (a.TotalLE b) := decidable_of_iff _ place_le_place_iff

-- the zeros are told apart, and a NaN with a minus sign stands below minus infinity
example : TotalLE ⟨0x8000000000000000⟩ zero ∧ ¬ TotalLE zero ⟨0x8000000000000000⟩ ∧
    TotalLE ⟨0xfff8000000000000⟩ ⟨0xfff0000000000000⟩ := by decide

/-- Scores with the same place are the same bits: the order is total. -/
theorem place_injective {a b : Score} (h : a.place = b.place) : a = b := by
  have ha := toNat_bits a
  have hb := toNat_bits b
  have hbits : a.bits.toNat = b.bits.toNat := by
    unfold place at h
    by_cases na : a.isNegative = true <;> by_cases nb : b.isNegative = true <;>
      simp [na, nb] at h ha hb <;> omega
  cases a; cases b
  exact congrArg Score.mk (UInt64.toNat_inj.mp hbits)

end Score

end Newsfeed
