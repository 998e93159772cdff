import Mathlib.Data.List.Chain
import Newsfeed.Proofs.Delivery
import Newsfeed.Proofs.HistorySignal

/-! # Places in the ranking

The place of an item in the ranking follows from its key and its position in the list: a lower key
comes first, and of two equal keys the earlier position. This order leaves no choice, so the ranking
is told completely by what it does to an item and by the order of the keys. It also tells how the
ranking of one list moves when more hosts have been visited.

Items are told by their positions here, since two of them may look alike.

* `rankPlaces`: the positions in rank order, with `rank_eq_map_rankPlaces`;
* `RanksAhead`: what decides which of two positions comes first (`pair_sublist_rankPlaces_iff`);
* `IsRanking`: the conditions on a ranking, with `isRanking_rankPlaces` and `IsRanking.eq_rank`;
* `rank_unique`: the ranking is the one list that meets them, and ranking it again changes nothing;
* `visited_never_demoted`: with more visited hosts, no item of a visited host falls behind an item
  that they do not affect.
-/

namespace Newsfeed

/-- Of two entries of a list, one comes before the other. -/
theorem pair_sublist_or {α : Type} {xs : List α} {a b : α} (ha : a ∈ xs) (hb : b ∈ xs)
    (hne : a ≠ b) : [a, b].Sublist xs ∨ [b, a].Sublist xs := by
  obtain ⟨before, after, rfl⟩ := List.append_of_mem ha
  rcases List.mem_append.mp hb with hbefore | hb
  · right
    exact (List.singleton_sublist.mpr hbefore).append
      (List.singleton_sublist.mpr List.mem_cons_self)
  · rcases List.mem_cons.mp hb with rfl | hafter
    · exact absurd rfl hne
    · left
      exact ((List.singleton_sublist.mpr hafter).cons_cons a).trans
        (List.sublist_append_right before (a :: after))

section Places

variable (c : Config) (hosts : List String) (items : List Item)

/-- The key that the item at a position is ranked by. -/
def keyAt (i : Fin items.length) : Score := ((items.get i).weigh c hosts).sortKey c

/-- Whether one position comes before another in the ranking: its key is lower, or it is the same
and the position is earlier. -/
def RanksAhead (i j : Fin items.length) : Prop :=
  (keyAt c hosts items i).place < (keyAt c hosts items j).place ∨
    keyAt c hosts items i = keyAt c hosts items j ∧ i < j

/-- The positions of the items, in the order in which the items are ranked. -/
def rankPlaces : List (Fin items.length) :=
  (List.finRange items.length).mergeSort fun i j =>
    (items.get i).weighsBefore c hosts (items.get j)

/-- The ranking has the weighed items at these positions. -/
theorem rank_eq_map_rankPlaces :
    rank c hosts items =
      (rankPlaces c hosts items).map fun i => (items.get i).weigh c hosts := by
  have hmap : (rankPlaces c hosts items).map (fun i => (items.get i).weigh c hosts) =
      ((List.finRange items.length).map fun i => (items.get i).weigh c hosts).mergeSort
        (Item.ranksBefore c) := List.map_mergeSort fun _ _ _ _ => rfl
  have hweigh : (List.finRange items.length).map (fun i => (items.get i).weigh c hosts) =
      items.map (Item.weigh c hosts) := by
    rw [← Function.comp_def (Item.weigh c hosts), ← List.map_map, List.map_get_finRange]
  rw [hmap, hweigh, rank]

theorem rankPlaces_perm : (rankPlaces c hosts items).Perm (List.finRange items.length) :=
  List.mergeSort_perm _ _

theorem rankPlaces_pairwise : (rankPlaces c hosts items).Pairwise (RanksAhead c hosts items) := by
  have hle : ∀ i j : Fin items.length, (items.get i).weighsBefore c hosts (items.get j) = true ↔
      (keyAt c hosts items i).place ≤ (keyAt c hosts items j).place :=
    fun _ _ => ranksBefore_iff c _ _
  have hsorted := sorted_mergeSort hle (List.finRange items.length)
  have hstable := stable_mergeSort hle (List.pairwise_lt_finRange items.length)
  apply (hsorted.and hstable).imp
  rintro i j ⟨hplace, hties⟩
  rcases lt_or_eq_of_le hplace with hlt | heq
  · exact Or.inl hlt
  · exact Or.inr ⟨Score.place_injective heq, hties heq⟩

variable {c hosts items}

theorem RanksAhead.asymm {i j : Fin items.length} (hij : RanksAhead c hosts items i j)
    (hji : RanksAhead c hosts items j i) : False := by
  rcases hij with hlt | ⟨hkey, hlt⟩
  · rcases hji with hlt' | ⟨hkey', -⟩
    · omega
    · rw [hkey'] at hlt
      exact lt_irrefl _ hlt
  · rcases hji with hlt' | ⟨-, hlt'⟩
    · rw [hkey] at hlt'
      exact lt_irrefl _ hlt'
    · exact Fin.lt_asymm hlt hlt'

/-- The order of the places determines them. -/
theorem eq_rankPlaces {places : List (Fin items.length)}
    (hperm : places.Perm (List.finRange items.length))
    (hplaces : places.Pairwise (RanksAhead c hosts items)) :
    places = rankPlaces c hosts items := by
  apply List.Perm.eq_of_pairwise _ hplaces (rankPlaces_pairwise c hosts items)
    (hperm.trans (rankPlaces_perm c hosts items).symm)
  intro i j _ _ hij hji
  exact (hij.asymm hji).elim

/-- Which of two positions comes first in the ranking is decided by their keys and their order. -/
theorem pair_sublist_rankPlaces_iff {i j : Fin items.length} :
    [i, j].Sublist (rankPlaces c hosts items) ↔ RanksAhead c hosts items i j := by
  have hahead : ∀ i j, [i, j].Sublist (rankPlaces c hosts items) → RanksAhead c hosts items i j :=
    fun _ _ h => List.pairwise_iff_forall_sublist.mp (rankPlaces_pairwise c hosts items) h
  have hmem : ∀ k, k ∈ rankPlaces c hosts items :=
    fun k => (rankPlaces_perm c hosts items).mem_iff.mpr (List.mem_finRange k)
  constructor
  · exact hahead i j
  · intro hij
    have hne : i ≠ j := by
      rintro rfl
      exact hij.asymm hij
    -- both are there, in one order or the other
    rcases pair_sublist_or (hmem i) (hmem j) hne with hsub | hsub
    · exact hsub
    · exact (hij.asymm (hahead j i hsub)).elim

end Places

/-! ## The conditions on a ranking -/

/-- The conditions on a ranking of a list of items: every item has one entry, which differs from it
in the points alone; the points are the score, less the penalty if the host of the item has been
visited; keys never decrease from one entry to the next; and entries with the same key keep the
order of their items. An entry comes with the position of its item. -/
structure IsRanking (c : Config) (hosts : List String) (items : List Item)
    (ranking : List (Fin items.length × Item)) : Prop where
  perm : (ranking.map Prod.fst).Perm (List.finRange items.length)
  frame : ∀ e ∈ ranking, e.2 = { items.get e.1 with points := e.2.points }
  hasPoints : ∀ e ∈ ranking, e.2.HasPoints c.historyPenalty
    (∃ host, hostOf? (items.get e.1).url = some host ∧ host ∈ hosts)
  sorted : ranking.IsChain fun x y => (x.2.sortKey c).TotalLE (y.2.sortKey c)
  stable : ranking.Pairwise fun x y => x.2.sortKey c = y.2.sortKey c → x.1 < y.1

/-- An item whose points are those that its host gives it is a weighed item. -/
theorem Item.eq_weigh_of_hasPoints {c : Config} {hosts : List String} {raw it : Item}
    (hframe : it = { raw with points := it.points })
    (hpoints : it.HasPoints c.historyPenalty (isVisited hosts raw = true)) :
    it = raw.weigh c hosts := by
  have hscore : it.score = raw.score := by rw [hframe]
  have hsame : it.points = raw.weightedScore c hosts := by
    by_cases hvisited : isVisited hosts raw = true
    · rw [hpoints.of_matched hvisited, hscore, weightedScore]
      simp [hvisited]
    · rw [hpoints.of_unmatched hvisited, hscore, weightedScore]
      simp [hvisited]
  rw [hframe, hsame]
  rfl

namespace IsRanking

variable {c : Config} {hosts : List String} {items : List Item}
  {ranking : List (Fin items.length × Item)}

theorem eq_weigh (h : IsRanking c hosts items ranking) {e : Fin items.length × Item}
    (he : e ∈ ranking) : e.2 = (items.get e.1).weigh c hosts := by
  have hpoints := h.hasPoints e he
  rw [← isVisited_iff] at hpoints
  exact Item.eq_weigh_of_hasPoints (h.frame e he) hpoints

/-- The positions of a ranking are in the only order that they can have. -/
theorem map_fst (h : IsRanking c hosts items ranking) :
    ranking.map Prod.fst = rankPlaces c hosts items := by
  -- places are numbers, so keys that never decrease from one entry to the next never decrease
  have hsorted : ranking.Pairwise fun x y => (x.2.sortKey c).place ≤ (y.2.sortKey c).place := by
    have hchain := h.sorted
    simp only [← Score.place_le_place_iff] at hchain
    have hplaces := List.isChain_iff_pairwise.mp
      ((List.isChain_map (fun e : Fin items.length × Item => (e.2.sortKey c).place)).mpr hchain)
    exact List.pairwise_map.mp hplaces
  apply eq_rankPlaces h.perm
  rw [List.pairwise_map]
  apply (hsorted.and h.stable).imp_of_mem
  rintro x y hx hy ⟨hplace, hties⟩
  rw [h.eq_weigh hx, h.eq_weigh hy] at hplace hties
  rcases lt_or_eq_of_le hplace with hlt | heq
  · exact Or.inl hlt
  · have hkey := Score.place_injective heq
    exact Or.inr ⟨hkey, hties hkey⟩

/-- What meets the conditions is the ranking. -/
theorem eq_rank (h : IsRanking c hosts items ranking) :
    ranking.map Prod.snd = rank c hosts items := by
  rw [rank_eq_map_rankPlaces, ← h.map_fst, List.map_map]
  apply List.map_congr_left
  intro e he
  exact h.eq_weigh he

end IsRanking

/-- The weighed items, each with its position and in rank order, meet the conditions. -/
theorem isRanking_rankPlaces (c : Config) (hosts : List String) (items : List Item) :
    IsRanking c hosts items
      ((rankPlaces c hosts items).map fun i => (i, (items.get i).weigh c hosts)) := by
  have hordered := rankPlaces_pairwise c hosts items
  constructor
  case perm =>
    rw [List.map_map]
    simpa [Function.comp_def] using rankPlaces_perm c hosts items
  case frame =>
    intro e he
    obtain ⟨i, -, rfl⟩ := List.mem_map.mp he
    rfl
  case hasPoints =>
    intro e he
    obtain ⟨i, -, rfl⟩ := List.mem_map.mp he
    rw [← isVisited_iff]
    exact (items.get i).weigh_hasPoints c hosts
  case sorted =>
    apply List.Pairwise.isChain
    rw [List.pairwise_map]
    apply hordered.imp
    rintro i j (hlt | ⟨hkey, -⟩)
    · exact Score.place_le_place_iff.mp hlt.le
    · exact Score.place_le_place_iff.mp (congrArg Score.place hkey).le
  case stable =>
    rw [List.pairwise_map]
    apply hordered.imp
    rintro i j (hlt | ⟨-, hij⟩) hkey
    · -- a lower key is not the same key
      exact absurd (congrArg Score.place hkey) hlt.ne
    · exact hij

/-- Points are set from the score, so weighing an item again changes nothing. -/
theorem Item.weigh_weigh (c : Config) (hosts : List String) (it : Item) :
    (it.weigh c hosts).weigh c hosts = it.weigh c hosts := rfl

theorem rank_rank (c : Config) (hosts : List String) (items : List Item) :
    rank c hosts (rank c hosts items) = rank c hosts items := by
  have hweighed : (rank c hosts items).map (Item.weigh c hosts) = rank c hosts items := by
    rw [rank_eq_map_rankPlaces, List.map_map]
    exact List.map_congr_left fun i _ => (items.get i).weigh_weigh c hosts
  -- weighing gives back the same items, which are sorted already
  have hsorted := rank_pairwise c hosts items
  rw [← hweighed] at hsorted
  rw [rank_of_sorted c hosts hsorted, hweighed]

/-- The ranking is the one list that meets the conditions on a ranking, and ranking it again with
the same hosts and settings changes nothing. -/
theorem rank_unique (c : Config) (hosts : List String) (items : List Item) :
    (∀ out : List Item,
      (∃ ranking, IsRanking c hosts items ranking ∧ ranking.map Prod.snd = out) ↔
        out = rank c hosts items) ∧
    rank c hosts (rank c hosts items) = rank c hosts items := by
  refine ⟨?_, rank_rank c hosts items⟩
  intro out
  constructor
  · rintro ⟨ranking, hranking, rfl⟩
    exact hranking.eq_rank
  · rintro rfl
    have hranking := isRanking_rankPlaces c hosts items
    exact ⟨_, hranking, hranking.eq_rank⟩

/-! ## More visited hosts -/

section Visited

variable {c : Config} {hosts hosts' : List String} {items : List Item} {i j : Fin items.length}

/-- An item whose status is the same has the same key. -/
theorem keyAt_congr (h : isVisited hosts (items.get i) = isVisited hosts' (items.get i)) :
    keyAt c hosts items i = keyAt c hosts' items i := by
  have hscore : (items.get i).weightedScore c hosts = (items.get i).weightedScore c hosts' := by
    rw [Item.weightedScore, Item.weightedScore, h]
  rw [keyAt, keyAt, Item.weigh, Item.weigh, hscore]

/-- The keys of an item that has been visited are not higher than any other, if the penalty does not
raise its score. -/
theorem keyAt_le_of_isVisited
    (hpenalty : ∀ s, (items.get i).score = some s → (s - c.historyPenalty).TotalLE s)
    (h : isVisited hosts' (items.get i) = true) :
    (keyAt c hosts' items i).place ≤ (keyAt c hosts items i).place := by
  by_cases hvisited : isVisited hosts (items.get i) = true
  · rw [keyAt_congr (hvisited.trans h.symm)]
  · have hkey : ∀ hosts, keyAt c hosts items i =
        ((items.get i).weightedScore c hosts).getD c.missingScore := fun _ => rfl
    simp only [hkey, Item.weightedScore, h, hvisited, if_true]
    cases hscore : (items.get i).score with
    | none => exact le_refl _
    | some s => exact Score.place_le_place_iff.mpr (hpenalty s hscore)

/-- A position that is ahead stays ahead when its own key sinks. -/
theorem RanksAhead.of_keyAt_le (h : RanksAhead c hosts items i j)
    (hi : (keyAt c hosts' items i).place ≤ (keyAt c hosts items i).place)
    (hj : keyAt c hosts items j = keyAt c hosts' items j) : RanksAhead c hosts' items i j := by
  rw [RanksAhead, hj] at h
  rcases h with hlt | ⟨hkey, hij⟩
  · exact Or.inl (lt_of_le_of_lt hi hlt)
  · rw [hkey] at hi
    rcases lt_or_eq_of_le hi with hlt | heq
    · -- the key has left the tie, downwards
      exact Or.inl hlt
    · exact Or.inr ⟨Score.place_injective heq, hij⟩

end Visited

/-- With more visited hosts, no item of a visited host falls behind an item whose own status does
not change, as long as subtracting the penalty raises none of the scores. Items are told by their
positions, and `rankPlaces` has the positions of the ranking for any hosts. That the first hosts are
among the others is not needed. -/
theorem visited_never_demoted (c : Config) (hosts hosts' : List String) (items : List Item)
    (hpenalty : ∀ it ∈ items, ∀ s, it.score = some s → (s - c.historyPenalty).TotalLE s) :
    (∀ hs, rank c hs items = (rankPlaces c hs items).map (fun i => (items.get i).weigh c hs) ∧
      IsRanking c hs items
        ((rankPlaces c hs items).map fun i => (i, (items.get i).weigh c hs))) ∧
    ∀ x y : Fin items.length, isVisited hosts' (items.get x) = true →
      isVisited hosts (items.get y) = isVisited hosts' (items.get y) →
      [x, y].Sublist (rankPlaces c hosts items) → [x, y].Sublist (rankPlaces c hosts' items) := by
  refine ⟨fun hs => ⟨rank_eq_map_rankPlaces c hs items, isRanking_rankPlaces c hs items⟩, ?_⟩
  intro x y hx hy hxy
  have hkey : (keyAt c hosts' items x).place ≤ (keyAt c hosts items x).place :=
    keyAt_le_of_isVisited (hpenalty (items.get x) (List.get_mem items x)) hx
  rw [pair_sublist_rankPlaces_iff] at hxy ⊢
  exact hxy.of_keyAt_le hkey (keyAt_congr hy)

/-- Two items of a host with an item of another host in between. The first two have the same
score. -/
def sampleHosts : List Item :=
  [(Item.article "a" "news://today/1").withScore (.ofFloat 20),
    (Item.article "b" "news://elsewhere/1").withScore (.ofFloat 20),
    (Item.article "c" "news://today/2").withScore (.ofFloat 22)]

theorem visited_never_demoted_sample :
    let first : Fin sampleHosts.length := ⟨0, by decide⟩
    let second : Fin sampleHosts.length := ⟨1, by decide⟩
    (∀ it ∈ sampleHosts, ∀ s, it.score = some s →
      (s - (Config.historyPenalty {})).TotalLE s) ∧
    isVisited ["today"] (sampleHosts.get first) = true ∧
    isVisited [] (sampleHosts.get second) = isVisited ["today"] (sampleHosts.get second) ∧
    [first, second].Sublist (rankPlaces {} [] sampleHosts) ∧
    [first, second].Sublist (rankPlaces {} ["today"] sampleHosts) := by
  intro first second
  have hpenalty : ∀ it ∈ sampleHosts, ∀ s, it.score = some s →
      (s - (Config.historyPenalty {})).TotalLE s := by
    intro it hit s hs
    have hscores : ∀ it ∈ sampleHosts,
        it.score ∈ [some (Score.ofFloat 20), some (.ofFloat 22)] := by decide
    have hscore := hscores it hit
    rw [hs] at hscore
    rcases List.mem_pair.mp hscore with heq | heq <;> cases heq <;> decide
  have hvisited : isVisited ["today"] (sampleHosts.get first) = true := by decide
  have hsame : isVisited [] (sampleHosts.get second) =
      isVisited ["today"] (sampleHosts.get second) := by decide
  have hbefore : [first, second].Sublist (rankPlaces {} [] sampleHosts) :=
    pair_sublist_rankPlaces_iff.mpr (Or.inr ⟨by decide, by decide⟩)
  exact ⟨hpenalty, hvisited, hsame, hbefore,
    (visited_never_demoted {} [] ["today"] sampleHosts hpenalty).2 first second hvisited hsame
      hbefore⟩

end Newsfeed
