import Newsfeed.Proofs.PageStep

/-! # The share of deals

Every page takes its share of deals as long as there are any. Which deals these are is up to the
focus of the page, but not how many: what the focus does not fill, the top-up does.

* `isFocusedSlot_drawDeals`: the two blocks of a page with a focus;
* `length_deals_poolsAt`: how many deals are left at every page;
* `deals_per_page`: the deals on each page, in number and in order.
-/

namespace Newsfeed

/-! ## One page -/

/-- The deals of a page with focus `f`, drawn from a pool: a block of that category, and a block
that fills the slot up. -/
structure IsFocusedSlot (f : String) (limit : Nat) (pool : Pool Item) (focused topUp : List Item) :
    Prop where
  /-- The first block holds the first deals of the category, in pool order. -/
  focused_eq : focused = (pool.items.filter (·.offersCategory? == some f)).take limit
  focused_category : ∀ it ∈ focused, it.offersCategory? = some f
  focused_sublist : focused.Sublist pool.items
  /-- The second block is the front of the pool that the first one leaves. -/
  topUp_eq : topUp =
    ((pool.take (·.offersCategory? == some f) limit).2.takeFront (limit - focused.length)).1
  topUp_category : ∀ it ∈ topUp, it.offersCategory? ≠ some f
  topUp_sublist : topUp.Sublist pool.items

/-- A page with a focus has a block of its category and a block that fills the slot up. -/
theorem isFocusedSlot_drawDeals (c : Config) (f : String) (pool : Pool Item) :
    ∃ focused topUp, (drawDeals c (some f) pool).1 = focused ++ topUp ∧
      IsFocusedSlot f c.dealsPerPage pool focused topUp := by
  let test := fun it : Item => it.offersCategory? == some f
  let drawn := Pool.draw test c.dealsPerPage pool.items
  refine ⟨drawn.1, drawn.2.take (c.dealsPerPage - drawn.1.length), ?_, ?_⟩
  · rw [drawDeals_eq]
    rfl
  constructor
  case focused_eq => exact Pool.draw_taken test c.dealsPerPage pool.items
  case focused_category =>
    intro it hit
    have hcategory := Pool.of_mem_draw test c.dealsPerPage pool.items hit
    simpa [test] using hcategory
  case focused_sublist => exact Pool.draw_taken_sublist test c.dealsPerPage pool.items
  case topUp_eq => rfl
  case topUp_category =>
    intro it hit
    -- there is a top-up only if the focus block is short, and then nothing of the category is left
    have hshort : drawn.1.length < c.dealsPerPage := by
      have hpos := List.length_pos_of_mem hit
      rw [List.length_take] at hpos
      omega
    have hnot := Pool.not_test_of_short hshort (List.mem_of_mem_take hit)
    simpa [test] using hnot
  case topUp_sublist =>
    exact (List.take_sublist _ _).trans (Pool.draw_left_sublist test c.dealsPerPage pool.items)

/-- A page without a focus has the front of the pool. -/
theorem drawDeals_none (c : Config) (pool : Pool Item) :
    (drawDeals c none pool).1 = pool.items.take c.dealsPerPage := by
  simp [drawDeals, Pool.takeFront]

/-! ## Whole runs -/

section Run

variable (c : Config) (now : Instant) (ceiling : Nat) (rotation : Rotation) (pools : Pools)

/-- The pages before page `n` have taken their shares. -/
theorem length_deals_poolsAt {n : Nat}
    (hn : n ≤ (drawPages c now ceiling rotation pools).pages.length) :
    (poolsAt c now rotation pools n).deals.items.length =
      pools.deals.items.length - n * c.dealsPerPage := by
  apply poolsAt_induction c now ceiling rotation pools
    (fun n left => left.deals.items.length = pools.deals.items.length - n * c.dealsPerPage)
    (by simp) _ hn
  intro i page hi heq
  have hstep := isPageStep_of_getElem? c now ceiling rotation pools hi
  rw [hstep.deals_left, length_drawDeals_left, heq, Nat.succ_mul, Nat.sub_add_eq]

/-- Page `p` has its share of the deals that the pages before it have left. -/
theorem length_deals {p : Nat} {page : Page}
    (hp : (drawPages c now ceiling rotation pools).pages[p]? = some page) :
    page.deals.length = min c.dealsPerPage (pools.deals.items.length - p * c.dealsPerPage) := by
  have hstep := isPageStep_of_getElem? c now ceiling rotation pools hp
  have hlt := (List.getElem?_eq_some_iff.mp hp).1
  have hleft := length_deals_poolsAt c now ceiling rotation pools (Nat.le_of_lt hlt)
  rw [hstep.deals, length_drawDeals, hleft]

/-- All pages together have placed a share for each of them, or all deals. -/
theorem length_flatMap_deals :
    ((drawPages c now ceiling rotation pools).pages.flatMap Page.deals).length =
      min pools.deals.items.length
        ((drawPages c now ceiling rotation pools).pages.length * c.dealsPerPage) := by
  have hsplit := (drawPages_deals_perm c now ceiling rotation pools).length_eq
  have hleft := length_deals_poolsAt c now ceiling rotation pools (Nat.le_refl _)
  rw [poolsAt_length] at hleft
  rw [List.length_append, hleft] at hsplit
  omega

end Run

/-- How many deals a page shows does not depend on the rotation: each page takes its share as long
as there are any. On a page with a focus the deals of its category come first, and the front of what
they leave follows; that holds no deal of the category any more. On a page without a focus there is
the front of the pool. -/
theorem deals_per_page (c : Config) (now : Instant) (ceiling : Nat) (rotation : Rotation)
    (pools : Pools) :
    let limit := c.dealsPerPage
    let total := pools.deals.items.length
    let pages := (drawPages c now ceiling rotation pools).pages
    (∀ p page, pages[p]? = some page → page.deals.length = min limit (total - p * limit)) ∧
    (pages.flatMap Page.deals).length = min total (pages.length * limit) ∧
    ∀ p page, pages[p]? = some page →
      let pool := (poolsAt c now rotation pools p).deals
      (∀ f, (rotation.focusAt p).deals = some f →
        ∃ focused topUp, page.deals = focused ++ topUp ∧
          IsFocusedSlot f limit pool focused topUp) ∧
      ((rotation.focusAt p).deals = none → page.deals = pool.items.take limit) := by
  intro limit total pages
  refine ⟨?_, ?_, ?_⟩
  · intro p page hp
    exact length_deals c now ceiling rotation pools hp
  · exact length_flatMap_deals c now ceiling rotation pools
  · intro p page hp pool
    have hstep := isPageStep_of_getElem? c now ceiling rotation pools hp
    constructor
    · intro f hfocus
      rw [hstep.deals, hfocus]
      exact isFocusedSlot_drawDeals c f pool
    · intro hfocus
      rw [hstep.deals, hfocus]
      exact drawDeals_none c pool

/-- Three headlines, and deals of two categories. -/
def mixedDeals : Pools :=
  ⟨⟨List.replicate 3 ((Item.article "a" "").withImage "image")⟩,
    ⟨[Item.deal "b" "" "Books", Item.deal "c" "" "Games", Item.deal "d" "" "Games",
      Item.deal "e" "" "Books"]⟩⟩

theorem deals_per_page_sample :
    let c : Config := { headlinesPerPage := 1, dealsPerPage := 3 }
    let pages := (drawPages c Instant.epoch 9 ⟨[], ["Games"]⟩ mixedDeals).pages
    pages.length = 3 ∧ (pages.flatMap Page.deals).length = 4 ∧
      (∃ page focused topUp, pages[0]? = some page ∧ page.deals = focused ++ topUp ∧
        IsFocusedSlot "Games" 3 mixedDeals.deals focused topUp ∧
        focused.length = 2 ∧ topUp.length = 1) ∧
      ∃ page, pages[1]? = some page ∧ page.deals = [Item.deal "e" "" "Books"] := by
  intro c pages
  have hlength : pages.length = 3 := by decide
  obtain ⟨hshare, hplaced, hblocks⟩ :=
    deals_per_page c Instant.epoch 9 ⟨[], ["Games"]⟩ mixedDeals
  refine ⟨hlength, ?_, ?_, ?_⟩
  · have htotal : mixedDeals.deals.items.length = 4 := rfl
    rw [hplaced, htotal, hlength]
    rfl
  · have hpage : pages[0]? = some pages[0] := List.getElem?_eq_getElem (by omega)
    obtain ⟨focused, topUp, hdeals, hslot⟩ := (hblocks 0 pages[0] hpage).1 "Games" rfl
    have hfocused : focused.length = 2 := by
      rw [hslot.focused_eq]
      decide
    have hthree : pages[0].deals.length = 3 := hshare 0 _ hpage
    rw [hdeals, List.length_append] at hthree
    exact ⟨pages[0], focused, topUp, hpage, hdeals, hslot, hfocused, by omega⟩
  · have hpage : pages[1]? = some pages[1] := List.getElem?_eq_getElem (by omega)
    exact ⟨pages[1], hpage, (hblocks 1 _ hpage).2 rfl⟩

end Newsfeed
