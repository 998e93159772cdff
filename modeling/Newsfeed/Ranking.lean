import Newsfeed.Config
import Newsfeed.Item
import Newsfeed.Telemetry
import Newsfeed.Url.Host

/-!
# Ranking

Items are ranked by their points, the lowest first. The points of an item are its score, less a
penalty if its host has been visited; an item without a score has no points and ranks as a fixed
value of the settings. Items of the same rank keep their order.

* `isVisited` : whether the host of an item is among the visited ones.
* `Item.weigh` : the item with its points.
* `rank` : the items with their points, in rank order.
* `isVisited_iff` : hosts count as a set, in whatever order and however often they are listed.
* `rank_perm` : ranking rearranges the weighed items and does nothing else.
-/

namespace Newsfeed

/-- Whether the URL of an item has a host, and one of the visited hosts. -/
def isVisited (hosts : List String) (it : Item) : Bool :=
  !hosts.isEmpty && (hostOf? it.url).any hosts.contains

namespace Item

/-- The points of an item. -/
def weightedScore (c : Config) (hosts : List String) (it : Item) : Option Score :=
  it.score.map fun s => if isVisited hosts it then s - c.historyPenalty else s

/-- The item with its points. -/
def weigh (c : Config) (hosts : List String) (it : Item) : Item :=
  { it with points := it.weightedScore c hosts }

/-- What an item ranks as: its points, or the value for items that have none. -/
def sortKey (c : Config) (it : Item) : Score := it.points.getD c.missingScore

/-- Whether an item may stand before another: its key is not above the other's in the total
order. -/
def ranksBefore (c : Config) (a b : Item) : Bool := (a.sortKey c).place ≤ (b.sortKey c).place

end Item

/-- The items with their points, in rank order. -/
def rank (c : Config) (hosts : List String) (items : List Item) : List Item :=
  (items.map (Item.weigh c hosts)).mergeSort (Item.ranksBefore c)

/-- What ranking reports: the number of items, and how many of them are on a visited host. -/
def rankSignals (hosts : List String) (items : List Item) : List Signal :=
  [.event (.weighted items.length (items.countP (isVisited hosts)))]

theorem isVisited_iff {hosts : List String} {it : Item} :
    isVisited hosts it = true ↔ ∃ host, hostOf? it.url = some host ∧ host ∈ hosts := by
  rw [isVisited, Bool.and_eq_true, Option.any_eq_true]
  simp only [List.contains_iff_mem]
  constructor
  · rintro ⟨-, hmem⟩
    exact hmem
  · rintro ⟨host, hurl, hhost⟩
    -- hosts that have a member are not empty, so the test for no history passes as well
    exact ⟨by simpa using List.ne_nil_of_mem hhost, host, hurl, hhost⟩

/-- Ranking rearranges the weighed items. -/
theorem rank_perm (c : Config) (hosts : List String) (items : List Item) :
    (rank c hosts items).Perm (items.map (Item.weigh c hosts)) :=
  List.mergeSort_perm _ _

theorem ranksBefore_trans (c : Config) (a b d : Item) (hab : a.ranksBefore c b = true)
    (hbd : b.ranksBefore c d = true) : a.ranksBefore c d = true := by
  simp only [Item.ranksBefore, decide_eq_true_eq] at *
  omega

theorem ranksBefore_total (c : Config) (a b : Item) :
    (a.ranksBefore c b || b.ranksBefore c a) = true := by
  simp only [Item.ranksBefore, Bool.or_eq_true, decide_eq_true_eq]
  omega

/-- In the ranking, every item may stand before all that come after it. -/
theorem rank_pairwise (c : Config) (hosts : List String) (items : List Item) :
    (rank c hosts items).Pairwise (fun a b => a.ranksBefore c b = true) :=
  List.pairwise_mergeSort (ranksBefore_trans c) (ranksBefore_total c) _

end Newsfeed
