import Newsfeed.Shuffle
import Newsfeed.Shuffle.Words

/-!
# Random shuffles

The Fisher–Yates shuffle over a source of random words. Entry after entry is swapped with one of
the entries up to it; several such choices are drawn at once as one number below the product of
their bounds, and then read off digit by digit in that mixed base.

* `below` : a number below a bound, from one word or two.
* `chunk` : how many choices fit into one number, and the bound of that number.
* `Shuffler.random` : the shuffler over a source of words.
* `swapAt_perm`, `swapAt_map` : a swap loses no entry and does not look at any.
-/

namespace Newsfeed

variable {ρ : Type}

/-- A number below `bound`: the high half of the word times the bound. If the low half is so large
that a further word could carry into the high half, that word is drawn. -/
def below (next : WordSource ρ) (bound : UInt32) (s : ρ) : UInt32 × ρ :=
  let (w, s) := next s
  let p := w.toUInt64 * bound.toUInt64
  let high := (p >>> 32).toUInt32
  let low := p.toUInt32
  if low > 0 - bound then
    let (w, s) := next s
    let carry := low.toUInt64 + ((w.toUInt64 * bound.toUInt64) >>> 32)
    (if carry ≥ 0x100000000 then high + 1 else high, s)
  else (high, s)

/-- The longest product `first * (first + 1) * …` below 2³², and how many factors it has. At most
`fuel` factors are tried. -/
def productBelow (fuel : Nat) (product factor count : Nat) : Nat × Nat :=
  match fuel with
  | 0 => (product, count)
  | fuel + 1 =>
    if product * factor < 0x100000000 then
      productBelow fuel (product * factor) (factor + 1) (count + 1)
    else (product, count)

/-- The bound for the choices from `first` on, and how many choices it covers. Since the factors
from the second on are at least two, there are no more than 32 of them. -/
def chunk (first : Nat) : Nat × Nat := productBelow 33 1 first 0

/-- The choices that are left over from the latest number drawn. -/
structure Choices where
  /-- The bound of the latest choice. -/
  bound : Nat := 0
  value : UInt32 := 0
  /-- How many choices can still be read off. -/
  left : Nat := 1
deriving DecidableEq, Repr

/-- The next choice, a number below a bound that grows by one each time. -/
def nextChoice (next : WordSource ρ) (c : Choices) (s : ρ) : Nat × Choices × ρ :=
  let m := c.bound + 1
  let (value, left, s) :=
    if c.left = 0 then
      let (product, count) := chunk m
      let (v, s) := below next (UInt32.ofNat product) s
      (v, count, s)
    else (c.value, c.left, s)
  if left ≤ 1 then (value.toNat, ⟨m, value, 0⟩, s)
  else (value.toNat % m, ⟨m, UInt32.ofNat (value.toNat / m), left - 1⟩, s)

/-- Swaps two entries; entries that are not there are left alone. -/
def swapAt {α : Type} (xs : Array α) (i j : Nat) : Array α := xs.swapIfInBounds i j

/-- Lets each of the entries from `i` on, `n` of them, trade places with the entry chosen for it. -/
def shuffleFrom {α : Type} (next : WordSource ρ) :
    (n i : Nat) → Choices → ρ → Array α → Array α × ρ
  | 0, _, _, s, xs => (xs, s)
  | n + 1, i, c, s, xs =>
    let (j, c, s) := nextChoice next c s
    shuffleFrom next n (i + 1) c s (swapAt xs i j)

namespace Shuffler

/-- The shuffler over a source of words. Lists of one entry or none use no word. Places are drawn as
numbers of 32 bits, so this is the shuffle of lists with fewer than 2³² - 1 entries; how the places of
longer lists are drawn is left out. -/
def random (next : WordSource ρ) : Shuffler ρ where
  run s xs :=
    if xs.length ≤ 1 then (xs, s)
    else
      let r := shuffleFrom next xs.length 0 {} s xs.toArray
      (r.1.toList, r.2)

end Shuffler

theorem swapAt_perm {α : Type} (xs : Array α) (i j : Nat) : (swapAt xs i j).Perm xs := by
  unfold swapAt Array.swapIfInBounds
  split
  · split
    · exact Array.swap_perm _ _
    · exact .refl _
  · exact .refl _

theorem swapAt_map {α β : Type} (f : α → β) (xs : Array α) (i j : Nat) :
    swapAt (xs.map f) i j = (swapAt xs i j).map f := by
  simp only [swapAt, Array.swapIfInBounds, Array.size_map]
  split
  · split
    · simp only [Array.swap_def, Array.map_set, Array.getElem_map]
    · rfl
  · rfl

end Newsfeed
