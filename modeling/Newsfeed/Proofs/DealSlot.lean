import Mathlib.Data.List.Perm.Basic
import Newsfeed.Page.Slots
import Newsfeed.Proofs.Draws

/-! # The deals of a page

The deals of a page are those of the focus, and then whatever is in front of what they leave.

* `drawDeals_eq`: the two blocks;
* `drawDeals_perm`, `drawDeals_left_sublist`: nothing is lost or taken twice on the way;
* `length_drawDeals`, `length_drawDeals_left`: how many deals a page has, and how many it leaves;
* `drawDeals_short`: a page with less than its share of deals leaves none.
-/

namespace Newsfeed

section Deals

variable (c : Config) (focus : Option String) (deals : Pool Item)

/-- The deals of the focus, and what they leave. Without a focus nothing matches. -/
def focusDraw : List Item × List Item :=
  Pool.draw (fun it => focus.isSome && it.offersCategory? == focus) c.dealsPerPage deals.items

/-- The deals of a page are the focus block, and the front of what it leaves. -/
theorem drawDeals_eq :
    drawDeals c focus deals =
      let focused := focusDraw c focus deals
      (focused.1 ++ focused.2.take (c.dealsPerPage - focused.1.length),
        ⟨focused.2.drop (c.dealsPerPage - focused.1.length)⟩) := by
  cases focus with
  | none =>
      have hnone : focusDraw c none deals = ([], deals.items) :=
        Pool.draw_of_forall_not c.dealsPerPage fun _ _ => rfl
      rw [hnone]
      rfl
  | some k => simp [drawDeals, focusDraw, Pool.take, Pool.takeFront]

/-- Every deal is placed on the page or left. -/
theorem drawDeals_perm :
    ((drawDeals c focus deals).1 ++ (drawDeals c focus deals).2.items).Perm deals.items := by
  have hfocus : ((focusDraw c focus deals).1 ++ (focusDraw c focus deals).2).Perm deals.items :=
    Pool.draw_perm _ _ _
  rw [drawDeals_eq]
  simpa only [List.append_assoc, List.take_append_drop] using hfocus

/-- The deals that are left keep their order. -/
theorem drawDeals_left_sublist : (drawDeals c focus deals).2.items.Sublist deals.items := by
  rw [drawDeals_eq]
  exact (List.drop_sublist _ _).trans (Pool.draw_left_sublist _ _ _)

/-- A page has its share of deals, or all that there are. -/
theorem length_drawDeals :
    (drawDeals c focus deals).1.length = min c.dealsPerPage deals.items.length := by
  have hfocus : ((focusDraw c focus deals).1 ++ (focusDraw c focus deals).2).Perm deals.items :=
    Pool.draw_perm _ _ _
  have hlength := hfocus.length_eq
  have hlimit : (focusDraw c focus deals).1.length ≤ c.dealsPerPage := Pool.length_draw_le _ _ _
  rw [drawDeals_eq]
  simp only [List.length_append, List.length_take] at hlength ⊢
  omega

/-- The deals that a page leaves are those beyond its share. -/
theorem length_drawDeals_left :
    (drawDeals c focus deals).2.items.length = deals.items.length - c.dealsPerPage := by
  have hsplit := (drawDeals_perm c focus deals).length_eq
  have htaken := length_drawDeals c focus deals
  rw [List.length_append] at hsplit
  omega

/-- A page with less than its share of deals leaves none. -/
theorem drawDeals_short (h : (drawDeals c focus deals).1.length < c.dealsPerPage) :
    (drawDeals c focus deals).2.items = [] := by
  rw [drawDeals_eq] at h ⊢
  simp only [List.length_append, List.length_take] at h
  apply List.drop_eq_nil_of_le
  omega

end Deals

end Newsfeed
