import Mathlib.Data.Nat.Factorial.Basic
import Newsfeed.Shuffle.Draws

/-! # Shuffles by swaps

A random shuffle lets the entries of a list trade places, from the first one on, each with an entry
that is not behind it. The places are read off digit by digit from numbers below a product of bounds,
and these numbers come from the words alone, so the entries themselves are never looked at.

* `below_lt`: a number below a bound is below it, for all words;
* `Choices.Fits`: what is left of a number suits the bounds that are still to come, which every
  choice keeps (`nextChoice_le`);
* `placesFrom_le`: no place that a shuffle draws is behind the entry it is drawn for;
* `Shuffler.SwapsBy`: shuffling by swaps with such places, which is a permutation and does not look at
  the entries (`SwapsBy.permutes`, `SwapsBy.isContentBlind`);
* `random_swapsBy`: random shuffles are by swaps, whatever the words are.
-/

namespace Newsfeed

variable {ρ : Type}

/-! ## Numbers below a bound -/

/-- The product of two words fits into 64 bits. -/
theorem toNat_wideProduct (w bound : UInt32) :
    (w.toUInt64 * bound.toUInt64).toNat = w.toNat * bound.toNat := by
  rw [UInt64.toNat_mul, UInt32.toNat_toUInt64, UInt32.toNat_toUInt64]
  have hlt : w.toNat * bound.toNat < 2 ^ 32 * 2 ^ 32 :=
    Nat.mul_lt_mul'' w.toNat_lt bound.toNat_lt
  exact Nat.mod_eq_of_lt (by omega)

/-- The upper half of the product of a word and a bound. -/
theorem toNat_upperHalf (w bound : UInt32) :
    ((w.toUInt64 * bound.toUInt64) >>> 32).toNat = w.toNat * bound.toNat / 0x100000000 := by
  rw [UInt64.toNat_shiftRight, toNat_wideProduct, Nat.shiftRight_eq_div_pow]
  rfl

/-- The lower half of the product of a word and a bound. -/
theorem toNat_lowerHalf (w bound : UInt32) :
    (w.toUInt64 * bound.toUInt64).toUInt32.toNat = w.toNat * bound.toNat % 0x100000000 := by
  rw [UInt64.toNat_toUInt32, toNat_wideProduct]

/-- The product stays a whole bound under the bound times the number of words. -/
theorem wideProduct_le (w bound : UInt32) : w.toNat * bound.toNat ≤ 0xFFFFFFFF * bound.toNat := by
  have hw := w.toNat_lt
  exact Nat.mul_le_mul_right _ (by omega)

/-- A carry does not lift the upper half of a product up to the bound: the lower half needs a part of
the bound to reach the next one. -/
theorem carried_lt {bound product further : Nat} (hproduct : product ≤ 0xFFFFFFFF * bound)
    (hfurther : further ≤ 0xFFFFFFFF * bound)
    (hcarry : 0x100000000 ≤ product % 0x100000000 + further / 0x100000000) :
    product / 0x100000000 + 1 < bound := by
  omega

/-- A number below a bound is below it, also when a second word carries into it. -/
theorem below_lt (next : WordSource ρ) {bound : UInt32} (hbound : 0 < bound.toNat) (s : ρ) :
    (below next bound s).1.toNat < bound.toNat := by
  rcases hfirst : next s with ⟨w, s'⟩
  rcases hsecond : next s' with ⟨v, s''⟩
  have hlimit := bound.toNat_lt
  have hproduct := wideProduct_le w bound
  have hfurther := wideProduct_le v bound
  have hupper : ((w.toUInt64 * bound.toUInt64) >>> 32).toUInt32.toNat =
      w.toNat * bound.toNat / 0x100000000 := by
    rw [UInt64.toNat_toUInt32, toNat_upperHalf]
    omega
  simp only [below, hfirst, hsecond]
  split
  · split
    · -- the second word carries, so the upper half grows by one
      rename_i hover
      have hsum : ((w.toUInt64 * bound.toUInt64).toUInt32.toUInt64 +
          ((v.toUInt64 * bound.toUInt64) >>> 32)).toNat =
          w.toNat * bound.toNat % 0x100000000 + v.toNat * bound.toNat / 0x100000000 := by
        rw [UInt64.toNat_add, UInt32.toNat_toUInt64, toNat_lowerHalf, toNat_upperHalf]
        omega
      have hcarry := UInt64.le_iff_toNat_le.mp hover
      rw [hsum] at hcarry
      have hlt := carried_lt hproduct hfurther hcarry
      have hone : (1 : UInt32).toNat = 1 := rfl
      rw [UInt32.toNat_add, hupper, hone]
      omega
    · rw [hupper]
      omega
  · rw [hupper]
    omega

/-! ## Choices -/

theorem productBelow_fst {first : Nat} (fuel : Nat) {product factor count : Nat}
    (hproduct : product = first.ascFactorial count) (hfactor : factor = first + count) :
    (productBelow fuel product factor count).1 =
      first.ascFactorial (productBelow fuel product factor count).2 := by
  induction fuel generalizing product factor count with
  | zero => exact hproduct
  | succ fuel ih =>
    rw [productBelow]
    split
    · apply ih
      · rw [Nat.ascFactorial_succ, hproduct, hfactor, Nat.mul_comm]
      · rw [hfactor, Nat.add_assoc]
    · exact hproduct

theorem productBelow_lt (fuel factor count : Nat) {product : Nat}
    (h : product < 0x100000000) : (productBelow fuel product factor count).1 < 0x100000000 := by
  induction fuel generalizing product factor count with
  | zero => exact h
  | succ fuel ih =>
    rw [productBelow]
    split
    · rename_i hnext
      exact ih _ _ hnext
    · exact h

/-- The bound for several choices is the product of their bounds. -/
theorem chunk_fst (first : Nat) : (chunk first).1 = first.ascFactorial (chunk first).2 :=
  productBelow_fst 33 (Nat.ascFactorial_zero first).symm rfl

theorem chunk_lt (first : Nat) : (chunk first).1 < 0x100000000 :=
  productBelow_lt 33 first 0 (by decide)

/-- What is left of the number drawn is below the product of the bounds that are still to come. -/
def Choices.Fits (c : Choices) : Prop :=
  c.left ≠ 0 → c.value.toNat < (c.bound + 1).ascFactorial c.left

theorem Choices.fits_start : ({} : Choices).Fits := fun _ => by decide

/-- Reads a choice off a number that is good for `left` of them. -/
def readOff (bound : Nat) (value : UInt32) (left : Nat) : Nat × Choices :=
  if left ≤ 1 then (value.toNat, ⟨bound, value, 0⟩)
  else (value.toNat % bound, ⟨bound, UInt32.ofNat (value.toNat / bound), left - 1⟩)

theorem nextChoice_of_left (next : WordSource ρ) {c : Choices} (hleft : c.left ≠ 0) (s : ρ) :
    nextChoice next c s =
      ((readOff (c.bound + 1) c.value c.left).1, (readOff (c.bound + 1) c.value c.left).2, s) := by
  simp only [nextChoice, readOff, if_neg hleft]
  split <;> rfl

theorem nextChoice_of_none_left (next : WordSource ρ) {c : Choices} (hleft : c.left = 0) (s : ρ) :
    nextChoice next c s =
      let (value, s') := below next (UInt32.ofNat (chunk (c.bound + 1)).1) s
      let r := readOff (c.bound + 1) value (chunk (c.bound + 1)).2
      (r.1, r.2, s') := by
  simp only [nextChoice, readOff, if_pos hleft]
  split <;> rfl

/-- A choice is below its bound, and what is left fits the next one. -/
theorem readOff_lt {bound left : Nat} {value : UInt32} (hbound : 0 < bound)
    (hvalue : value.toNat < bound.ascFactorial left) :
    (readOff bound value left).1 < bound ∧ (readOff bound value left).2.bound = bound ∧
      (readOff bound value left).2.Fits := by
  unfold readOff
  split
  · -- the last choice is all of the number
    rename_i hlast
    refine ⟨?_, rfl, fun hne => absurd rfl hne⟩
    rcases Nat.le_one_iff_eq_zero_or_eq_one.mp hlast with rfl | rfl
    · exact Nat.lt_of_lt_of_le hvalue hbound
    · simpa [Nat.ascFactorial_succ] using hvalue
  · rename_i hmore
    obtain ⟨rest, rfl⟩ : ∃ rest, left = rest + 1 := ⟨left - 1, by omega⟩
    refine ⟨Nat.mod_lt _ hbound, rfl, fun _ => ?_⟩
    -- the product without its first bound is above the number without its first digit
    rw [Nat.ascFactorial_succ, ← Nat.succ_ascFactorial] at hvalue
    have hdigits : value.toNat / bound < (bound + 1).ascFactorial rest :=
      Nat.div_lt_of_lt_mul hvalue
    have hword : value.toNat / bound < 2 ^ 32 :=
      Nat.lt_of_le_of_lt (Nat.div_le_self _ _) value.toNat_lt
    simpa [UInt32.toNat_ofNat_of_lt' hword] using hdigits

/-- The step of the invariant: a choice is one of the entries so far, and what is left fits the
choice for the next entry. -/
theorem nextChoice_le (next : WordSource ρ) {c : Choices} (hc : c.Fits) (s : ρ) :
    (nextChoice next c s).1 ≤ c.bound ∧ (nextChoice next c s).2.1.bound = c.bound + 1 ∧
      (nextChoice next c s).2.1.Fits := by
  by_cases hleft : c.left = 0
  · -- a new number, below the product of the bounds of the choices that it is good for
    have hproduct : (UInt32.ofNat (chunk (c.bound + 1)).1).toNat =
        (c.bound + 1).ascFactorial (chunk (c.bound + 1)).2 := by
      rw [UInt32.toNat_ofNat_of_lt' (chunk_lt _), chunk_fst]
    have hvalue := below_lt next (hproduct ▸ Nat.ascFactorial_pos _ _) s
    rw [hproduct] at hvalue
    obtain ⟨hlt, hbound, hfits⟩ := readOff_lt c.bound.succ_pos hvalue
    rw [nextChoice_of_none_left next hleft]
    exact ⟨Nat.le_of_lt_succ hlt, hbound, hfits⟩
  · obtain ⟨hlt, hbound, hfits⟩ := readOff_lt c.bound.succ_pos (hc hleft)
    rw [nextChoice_of_left next hleft]
    exact ⟨Nat.le_of_lt_succ hlt, hbound, hfits⟩

/-! ## Places -/

/-- The places drawn for `n` entries, one after the other, and the state after that. -/
def placesFrom (next : WordSource ρ) : (n : Nat) → Choices → ρ → List Nat × ρ
  | 0, _, s => ([], s)
  | n + 1, c, s =>
    let (j, c, s) := nextChoice next c s
    let (js, s) := placesFrom next n c s
    (j :: js, s)

/-- The places drawn for the entries of a list, from the first one on. -/
def places (next : WordSource ρ) (s : ρ) (length : Nat) : List Nat × ρ :=
  if length ≤ 1 then ([], s) else placesFrom next length {} s

theorem length_placesFrom (next : WordSource ρ) (n : Nat) (c : Choices) (s : ρ) :
    (placesFrom next n c s).1.length = n := by
  induction n generalizing c s with
  | zero => rfl
  | succ n ih => rw [placesFrom, List.length_cons, ih]

/-- The run of the invariant: the place drawn for an entry is not behind it. -/
theorem placesFrom_le (next : WordSource ρ) (n : Nat) {c : Choices} (hc : c.Fits) (s : ρ)
    {i j : Nat} (hplace : (placesFrom next n c s).1[i]? = some j) : j ≤ c.bound + i := by
  induction n generalizing c s i with
  | zero => simp [placesFrom] at hplace
  | succ n ih =>
    obtain ⟨hle, hbound, hfits⟩ := nextChoice_le next hc s
    rw [placesFrom] at hplace
    cases i with
    | zero =>
      obtain rfl : (nextChoice next c s).1 = j := by simpa using hplace
      exact hle
    | succ i =>
      -- the bound has grown by one, and the entry is one place nearer to the next choice
      have hlater := ih hfits _ (by simpa using hplace)
      omega

/-! ## Swaps -/

section Swaps

variable {α β : Type}

/-- Lets the entries from `i` on trade places, each with the entry at the place given for it. -/
def swapEach : (i : Nat) → List Nat → Array α → Array α
  | _, [], xs => xs
  | i, j :: js, xs => swapEach (i + 1) js (swapAt xs i j)

theorem swapEach_perm (i : Nat) (js : List Nat) (xs : Array α) : (swapEach i js xs).Perm xs := by
  induction js generalizing i xs with
  | nil => exact .refl _
  | cons j js ih => exact (ih _ _).trans (swapAt_perm xs i j)

theorem swapEach_map (f : α → β) (i : Nat) (js : List Nat) (xs : Array α) :
    swapEach i js (xs.map f) = (swapEach i js xs).map f := by
  induction js generalizing i xs with
  | nil => rfl
  | cons j js ih => rw [swapEach, swapAt_map, ih, swapEach]

/-- A shuffle first draws the places and then swaps. -/
theorem shuffleFrom_eq (next : WordSource ρ) (n i : Nat) (c : Choices) (s : ρ) (xs : Array α) :
    shuffleFrom next n i c s xs =
      (swapEach i (placesFrom next n c s).1 xs, (placesFrom next n c s).2) := by
  induction n generalizing i c s xs with
  | zero => rfl
  | succ n ih =>
    simp only [shuffleFrom, placesFrom, swapEach]
    exact ih _ _ _ _

end Swaps

namespace Shuffler

variable {σ : Type}

/-- The shuffler swaps: from the first entry on, each trades places with the one at the place drawn
for it, which is not behind it. So every swap is one of two entries of the list. The places and the
next state come from the state and from the length of the list. -/
structure SwapsBy (sh : Shuffler σ) (drawn : σ → Nat → List Nat × σ) : Prop where
  run_eq : ∀ {α : Type} (s : σ) (xs : List α), sh.run s xs =
    ((swapEach 0 (drawn s xs.length).1 xs.toArray).toList, (drawn s xs.length).2)
  length_le : ∀ s n, (drawn s n).1.length ≤ n
  place_le : ∀ s n (i j : Nat), (drawn s n).1[i]? = some j → j ≤ i

namespace SwapsBy

variable {sh : Shuffler σ} {drawn : σ → Nat → List Nat × σ}

theorem permutes (h : sh.SwapsBy drawn) : sh.Permutes := by
  intro α s xs
  rw [h.run_eq]
  simpa using Array.perm_iff_toList_perm.1 (swapEach_perm 0 (drawn s xs.length).1 xs.toArray)

theorem isContentBlind (h : sh.SwapsBy drawn) : sh.IsContentBlind := by
  intro α β f s xs
  rw [h.run_eq, h.run_eq, List.length_map, ← List.map_toArray, swapEach_map, Array.toList_map]

end SwapsBy

/-- Random shuffles swap, and none of their swaps leaves the list, whatever the words are. -/
theorem random_swapsBy (next : WordSource ρ) : (random next).SwapsBy (places next) where
  run_eq s xs := by
    simp only [random, places]
    split
    · rfl
    · rw [shuffleFrom_eq]
  length_le s n := by
    rw [places]
    split
    · exact Nat.zero_le n
    · exact Nat.le_of_eq (length_placesFrom next n {} s)
  place_le s n i j hplace := by
    rw [places] at hplace
    split at hplace
    · simp at hplace
    · simpa using placesFrom_le next n Choices.fits_start s hplace

/-- The identity shuffles without any swap. -/
theorem identity_swapsBy : identity.SwapsBy fun s _ => ([], s) where
  run_eq _ _ := rfl
  length_le _ n := Nat.zero_le n
  place_le _ _ _ _ hplace := by simp at hplace

end Shuffler

/-- A random shuffle is a permutation, whatever words drive it. -/
theorem random_permutes (next : WordSource ρ) : (Shuffler.random next).Permutes :=
  (Shuffler.random_swapsBy next).permutes

/-- A random shuffle does not look at what it shuffles. -/
theorem random_isContentBlind (next : WordSource ρ) : (Shuffler.random next).IsContentBlind :=
  (Shuffler.random_swapsBy next).isContentBlind

end Newsfeed
