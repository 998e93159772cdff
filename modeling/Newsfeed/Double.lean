/-!
# Quotients in double precision

A double holds a significand of 53 bits at most and a power of two, so the quotient of two whole
numbers is rounded to the nearest such number before anything else is done with it. Numbers here
are not negative.

* `Double.quotient` : the double nearest to a quotient, of two that are equally near the even one.
* `Double.floor` : the whole number below a double.
* `Double.round` : the nearest whole number, a half counting up.
-/

namespace Newsfeed

/-- A number as a double holds it: a significand times a power of two. -/
structure Double where
  significand : Nat
  exponent : Int
deriving DecidableEq, Repr

namespace Double

/-- The whole number nearest to a quotient, of two that are equally near the even one. -/
def nearestEven (n d : Nat) : Nat :=
  let q := n / d
  let twice := 2 * (n % d)
  if twice < d ∨ (twice = d ∧ q % 2 = 0) then q else q + 1

/-- The power of two of which a quotient has at least `2 ^ 52` and less than `2 ^ 53`. The lengths
of the two numbers tell it up to one. -/
def quotientExponent (n d : Nat) : Int :=
  let e : Int := n.log2 - d.log2 - 52
  if n <<< (-e).toNat < d <<< e.toNat <<< 52 then e - 1 else e

/-- The double nearest to a quotient of whole numbers that are doubles themselves. -/
def quotient (n d : Nat) : Double :=
  let e := quotientExponent n d
  ⟨nearestEven (n <<< (-e).toNat) (d <<< e.toNat), e⟩

/-- The double with a power of two that is greater by one. -/
def twice (x : Double) : Double := { x with exponent := x.exponent + 1 }

/-- The whole number below a double. -/
def floor (x : Double) : Nat := x.significand <<< x.exponent.toNat >>> (-x.exponent).toNat

/-- The whole number nearest to a double, a half counting up. -/
def round (x : Double) : Nat := (x.twice.floor + 1) / 2

-- a third has no end in binary and is cut after 53 bits; one and a half is exact, and rounds up
example : quotient 1 3 = ⟨6004799503160661, -54⟩ ∧ (quotient 3 2).floor = 1 ∧
    (quotient 3 2).round = 2 := by decide

end Double

end Newsfeed
