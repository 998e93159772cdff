import Newsfeed.Item
import Newsfeed.Rotation.Tally

/-!
# Rotation of categories

Each page has a focus: a category for its group and a category for its deals. Two queues supply
them, one entry of each per page. A queue holds every category once, the rarest first; categories
that are equally common stand in the order in which they first appear. The lead category always
opens the queue of articles.

* `countInOrder` : the distinct non-empty keys with their counts, in order of first appearance.
* `Rotation.ofItems` : the queues for a list of articles and a list of deals.
* `Rotation.next` : the focus of the next page; a queue that has run dry has none to give.
-/

namespace Newsfeed

/-- The distinct non-empty keys with their counts, in order of first appearance. -/
def countInOrder (keys : List String) : List (String × Nat) :=
  ((Tally.ofKeys? (keys.filter (· ≠ ""))).get (Tally.isSome_ofKeys? _)).entries

/-- The distinct non-empty keys, the rarest first. -/
def rarestFirst (keys : List String) : List String :=
  ((countInOrder keys).mergeSort fun a b => a.2 ≤ b.2).map (·.1)

/-- The lead category and then the categories of the articles, the rarest first. -/
def categoryQueue (lead : String) (articles : List Item) : List String :=
  lead :: rarestFirst ((articles.map (·.category)).filter (· ≠ lead))

/-- The rotation keys of the deals, the rarest first; other items are ignored. -/
def dealQueue (deals : List Item) : List String := rarestFirst (deals.filterMap (·.offersCategory?))

/-- What a page concentrates on: a category of articles and a category of deals. -/
structure Focus where
  category : Option String
  deals : Option String
deriving DecidableEq, Repr

/-- The focus queues of the pages to come. -/
structure Rotation where
  categories : List String := []
  deals : List String := []
deriving DecidableEq, Repr

namespace Rotation

/-- The queues for the items of an assembly. -/
def ofItems (lead : String) (articles deals : List Item) : Rotation :=
  ⟨categoryQueue lead articles, dealQueue deals⟩

/-- The focus of the next page. -/
def focus (r : Rotation) : Focus := ⟨r.categories.head?, r.deals.head?⟩

/-- The queues after the next page. -/
def advance (r : Rotation) : Rotation := ⟨r.categories.tail, r.deals.tail⟩

/-- Takes the focus of the next page off both queues. -/
def next (r : Rotation) : Focus × Rotation := (r.focus, r.advance)

/-- The focus of page `n`, counted from zero. -/
def focusAt (r : Rotation) (n : Nat) : Focus := ⟨r.categories[n]?, r.deals[n]?⟩

theorem focusAt_zero (r : Rotation) : r.focusAt 0 = r.focus := by
  simp [focusAt, focus, List.head?_eq_getElem?]

theorem focusAt_succ (r : Rotation) (n : Nat) : r.focusAt (n + 1) = r.advance.focusAt n := by
  simp [focusAt, advance, List.getElem?_tail]

end Rotation

end Newsfeed
