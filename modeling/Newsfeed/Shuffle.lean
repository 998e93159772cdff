/-!
# Shuffling the top of a list

A shuffler rearranges a list and moves on to a next state. Assembly hands it the best articles and
leaves all others where they are.

* `Shuffler.Permutes` : every result is a permutation of what was handed in.
* `Shuffler.KeepsLength` : every result is as long as what was handed in.
* `Shuffler.IsContentBlind` : the rearrangement and the next state depend on the length of the
  list, not on its elements.
* `shuffleTop` : shuffles the first entries of a list, with `shuffleTop_perm` and
  `getElem?_shuffleTop`: the rest stays where it is.
-/

namespace Newsfeed

/-- A way to rearrange lists, with a state of type `σ` that lasts from one call to the next. -/
structure Shuffler (σ : Type) where
  run : {α : Type} → σ → List α → List α × σ

namespace Shuffler

variable {σ : Type}

/-- The shuffler returns a permutation of what it is handed. -/
def Permutes (sh : Shuffler σ) : Prop :=
  ∀ {α : Type} (s : σ) (xs : List α), (sh.run s xs).1.Perm xs

/-- The shuffler works in place, so the length is the one thing that it cannot change. -/
def KeepsLength (sh : Shuffler σ) : Prop :=
  ∀ {α : Type} (s : σ) (xs : List α), (sh.run s xs).1.length = xs.length

theorem Permutes.keepsLength {sh : Shuffler σ} (h : sh.Permutes) : sh.KeepsLength :=
  fun s xs => (h s xs).length_eq

/-- The shuffler does not look at the elements: it commutes with any map of them. -/
def IsContentBlind (sh : Shuffler σ) : Prop :=
  ∀ {α β : Type} (f : α → β) (s : σ) (xs : List α),
    sh.run s (xs.map f) = ((sh.run s xs).1.map f, (sh.run s xs).2)

/-- Leaves every list as it is. -/
def identity : Shuffler Unit := ⟨fun s xs => (xs, s)⟩

/-- Turns every list around. -/
def reversal : Shuffler Unit := ⟨fun s xs => (xs.reverse, s)⟩

/-- Moves the first `k` entries to the end, counting round if the list is shorter. -/
def rotation (k : Nat) : Shuffler Unit := ⟨fun s xs => (xs.rotateLeft k, s)⟩

theorem identity_permutes : identity.Permutes := fun _ xs => .refl xs

theorem reversal_permutes : reversal.Permutes := fun _ xs => List.reverse_perm xs

end Shuffler

/-- Shuffles the first `top` entries of a list; the rest keep their places. -/
def shuffleTop {σ α : Type} (sh : Shuffler σ) (top : Nat) (s : σ) (xs : List α) : List α × σ :=
  let r := sh.run s (xs.take top)
  (r.1 ++ xs.drop top, r.2)

section ShuffleTop

variable {σ α β : Type} {sh : Shuffler σ}

theorem shuffleTop_perm (hsh : sh.Permutes) (top : Nat) (s : σ) (xs : List α) :
    (shuffleTop sh top s xs).1.Perm xs := by
  have hhead := (hsh s (xs.take top)).append_right (xs.drop top)
  rw [List.take_append_drop] at hhead
  exact hhead

theorem length_shuffleTop (hsh : sh.KeepsLength) (top : Nat) (s : σ) (xs : List α) :
    (shuffleTop sh top s xs).1.length = xs.length := by
  have hhead := congrArg List.length (List.take_append_drop top xs)
  rw [shuffleTop, List.length_append, hsh, ← List.length_append, hhead]

/-- A top that reaches beyond the end of a list is the whole list. -/
theorem drop_min_length (top : Nat) (xs : List α) :
    xs.drop (min top xs.length) = xs.drop top := by
  rcases Nat.le_total top xs.length with htop | htop
  · rw [Nat.min_eq_left htop]
  · rw [List.drop_eq_nil_of_le htop, List.drop_eq_nil_of_le (by omega)]

/-- The entries behind the shuffled ones keep their places. -/
theorem getElem?_shuffleTop (hsh : sh.KeepsLength) (top : Nat) (s : σ) {xs : List α} {i : Nat}
    (hi : min top xs.length ≤ i) : (shuffleTop sh top s xs).1[i]? = xs[i]? := by
  have hlength : (sh.run s (xs.take top)).1.length = min top xs.length := by
    rw [hsh, List.length_take]
  rw [shuffleTop, List.getElem?_append_right (hlength ▸ hi), hlength, ← drop_min_length,
    List.getElem?_drop, Nat.add_sub_cancel' hi]

theorem shuffleTop_map (hsh : sh.IsContentBlind) (f : α → β) (top : Nat) (s : σ) (xs : List α) :
    shuffleTop sh top s (xs.map f) =
      ((shuffleTop sh top s xs).1.map f, (shuffleTop sh top s xs).2) := by
  simp only [shuffleTop, ← List.map_take, ← List.map_drop, hsh f, List.map_append]

end ShuffleTop

end Newsfeed
