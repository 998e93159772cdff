import Mathlib.Data.List.FinRange
import Newsfeed.Proofs.Swaps

/-! # Shuffling the top of a list

A shuffler is handed the first entries of a list. If it permutes them, the whole list is permuted and
the rest of it stays where it is. If it does not look at them either, it moves places: the order of
these is settled by its state and by how many there are, and so is its next state.

* `Shuffler.order`, `Shuffler.after`: what becomes of the places of a list, and of the state;
* `Shuffler.MovesPlaces`: shuffling the top of a list is moving its places, whatever stands there;
* `IsContentBlind.movesPlaces`: shufflers that permute without a look at the entries do so;
* `top_shuffle_moves_places`: random shuffles, for all words, and the identity among them.
-/

namespace Newsfeed

/-- The entry at one of the top places of a list. -/
def topEntry {α : Type} (top : Nat) (xs : List α) (i : Fin (min top xs.length)) : α :=
  xs.get (i.castLE (Nat.min_le_right top xs.length))

/-- The top of a list has the entries at its places. -/
theorem map_topEntry_finRange {α : Type} (top : Nat) (xs : List α) :
    (List.finRange (min top xs.length)).map (topEntry top xs) = xs.take top := by
  apply List.ext_getElem
  · simp
  · intro i hi hi'
    simp [topEntry]

namespace Shuffler

variable {σ : Type} {sh : Shuffler σ}

/-- The order that the places of a list with `n` entries are brought into. -/
def order (sh : Shuffler σ) (s : σ) (n : Nat) : List (Fin n) := (sh.run s (List.finRange n)).1

/-- The state after a list with `n` entries. -/
def after (sh : Shuffler σ) (s : σ) (n : Nat) : σ := (sh.run s (List.finRange n)).2

/-- Shuffling the top of a list is moving its places. Their order and the next state come from the
state and from the number of entries shuffled, so any map of the entries can as well be applied
afterwards. -/
structure MovesPlaces (sh : Shuffler σ) : Prop where
  order_perm : ∀ s n, (sh.order s n).Perm (List.finRange n)
  shuffleTop_eq : ∀ {α : Type} (top : Nat) (s : σ) (xs : List α), shuffleTop sh top s xs =
    ((sh.order s (min top xs.length)).map (topEntry top xs) ++ xs.drop (min top xs.length),
      sh.after s (min top xs.length))
  shuffleTop_map : ∀ {α β : Type} (f : α → β) (top : Nat) (s : σ) (xs : List α),
    shuffleTop sh top s (xs.map f) =
      ((shuffleTop sh top s xs).1.map f, (shuffleTop sh top s xs).2)

/-- What is done to the top of a list is what is done to its places. -/
theorem IsContentBlind.run_take (hblind : sh.IsContentBlind) {α : Type} (top : Nat) (s : σ)
    (xs : List α) :
    sh.run s (xs.take top) = ((sh.order s (min top xs.length)).map (topEntry top xs),
      sh.after s (min top xs.length)) := by
  -- the top is the list of its places, each replaced by the entry that stands there
  rw [← map_topEntry_finRange, hblind]
  rfl

theorem IsContentBlind.movesPlaces (hblind : sh.IsContentBlind) (hsh : sh.Permutes) :
    sh.MovesPlaces where
  order_perm s n := hsh s (List.finRange n)
  shuffleTop_eq top s xs := by
    rw [shuffleTop, hblind.run_take, drop_min_length]
  shuffleTop_map := shuffleTop_map hblind

theorem SwapsBy.movesPlaces {drawn : σ → Nat → List Nat × σ} (h : sh.SwapsBy drawn) :
    sh.MovesPlaces :=
  IsContentBlind.movesPlaces h.isContentBlind h.permutes

end Shuffler

/-- Shuffling the top of a list permutes the list and leaves all entries behind the top where they
are, if the shuffler permutes what it is handed. Shufflers by swaps do, and move places, whatever
stands there. Among them are the random shuffles, for all words and all states of their source, and
the identity. -/
theorem top_shuffle_moves_places :
    (∀ {σ α : Type} (sh : Shuffler σ) (top : Nat) (s : σ) (xs : List α), sh.Permutes →
      (shuffleTop sh top s xs).1.Perm xs ∧
        ∀ i, min top xs.length ≤ i → (shuffleTop sh top s xs).1[i]? = xs[i]?) ∧
    (∀ {σ : Type} (sh : Shuffler σ) (drawn : σ → Nat → List Nat × σ), sh.SwapsBy drawn →
      sh.Permutes ∧ sh.MovesPlaces) ∧
    (∀ {ρ : Type} (next : WordSource ρ), (Shuffler.random next).SwapsBy (places next) ∧
      (Shuffler.random next).Permutes ∧ (Shuffler.random next).MovesPlaces) ∧
    Shuffler.identity.Permutes ∧ Shuffler.identity.MovesPlaces := by
  refine ⟨?_, ?_, ?_, Shuffler.identity_permutes, Shuffler.identity_swapsBy.movesPlaces⟩
  · intro σ α sh top s xs hsh
    exact ⟨shuffleTop_perm hsh top s xs, fun i => getElem?_shuffleTop hsh.keepsLength top s⟩
  · intro σ sh drawn hswaps
    exact ⟨hswaps.permutes, hswaps.movesPlaces⟩
  · intro ρ next
    have hswaps := Shuffler.random_swapsBy next
    exact ⟨hswaps, hswaps.permutes, hswaps.movesPlaces⟩

theorem top_shuffle_moves_places_sample :
    let sh := Shuffler.random Words.cyclic
    let words := Words.Cycle.ofList [7, 1]
    let names := ["a", "bb", "ccc", "dddd", "eeeee"]
    sh.SwapsBy (places Words.cyclic) ∧ sh.Permutes ∧
      (shuffleTop sh 3 words names).1 = ["ccc", "a", "bb", "dddd", "eeeee"] ∧
      (shuffleTop sh 3 words names).1.Perm names ∧
      (∀ i, 3 ≤ i → (shuffleTop sh 3 words names).1[i]? = names[i]?) ∧
      (shuffleTop sh 3 words (names.map String.length)).1 = [3, 1, 2, 4, 5] := by
  intro sh words names
  obtain ⟨hpermuting, hswapping, hrandom, -, -⟩ := top_shuffle_moves_places
  obtain ⟨hswaps, -, -⟩ := hrandom Words.cyclic
  obtain ⟨hsh, hplaces⟩ := hswapping sh (places Words.cyclic) hswaps
  obtain ⟨hperm, hrest⟩ := hpermuting sh 3 words names hsh
  have hrun : (shuffleTop sh 3 words names).1 = ["ccc", "a", "bb", "dddd", "eeeee"] := by decide
  refine ⟨hswaps, hsh, hrun, hperm, hrest, ?_⟩
  rw [hplaces.shuffleTop_map, hrun]
  rfl

end Newsfeed
