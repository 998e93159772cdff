import Newsfeed.Page.Run
import Newsfeed.Proofs.Loop
import Newsfeed.Proofs.PageParts

/-! # A run as a loop over pages

One step of a run draws one page. All that is known of a run follows from what is known of this
step, by the rules for loops.

* `drawPages_eq_loop`: a run is the loop of its page steps, page `i` with focus `i` of the rotation;
* `IsPageStep`: what it takes to draw a page, and what the page leaves;
* `drawPages_articles_perm`, `drawPages_deals_perm`: nothing is lost or placed twice in a run;
* `drawPages_split`: what follows a page is the run from what that page leaves;
* `poolsAt`: the pools that each page is drawn from, with `pageStep_of_getElem?` for the page and
  `poolsAt_induction` for what all pages before it have in common;
* `drawPages_stuck`: a run ends below the ceiling only where no headline is left.
-/

namespace Newsfeed

/-- The step of a run that draws page `i`. -/
def pageStep (c : Config) (now : Instant) (rotation : Rotation) (i : Nat) (pools : Pools) :
    Option (Page × Pools) :=
  match drawPage c now (rotation.focusAt i) pools with
  | (none, _) => none
  | (some page, left) => some (page, left)

/-- The step fills the slots and draws the deals of its focus, and fails without a headline. -/
theorem pageStep_eq (c : Config) (now : Instant) (rotation : Rotation) (i : Nat) (pools : Pools) :
    pageStep c now rotation i pools =
      let focus := rotation.focusAt i
      let filled := fillSlots id c now focus.category pools.articles.items
      let deals := drawDeals c focus.deals pools.deals
      if filled.1.headlines.isEmpty then none
      else some (filled.1.toPage focus.category deals.1, ⟨⟨filled.2⟩, deals.2⟩) := by
  simp only [pageStep, drawPage_eq]
  by_cases hnone :
      (fillSlots id c now (rotation.focusAt i).category pools.articles.items).1.headlines.isEmpty =
        true
  · rw [if_pos hnone, if_pos hnone]
  · rw [if_neg hnone, if_neg hnone]

theorem pageStep_succ (c : Config) (now : Instant) (rotation : Rotation) :
    (fun i => pageStep c now rotation (i + 1)) = pageStep c now rotation.advance := by
  funext i pools
  simp only [pageStep, Rotation.focusAt_succ]

/-- A run is the loop of its page steps. -/
theorem drawPages_eq_loop (c : Config) (now : Instant) (ceiling : Nat) (rotation : Rotation)
    (pools : Pools) :
    ((drawPages c now ceiling rotation pools).pages, (drawPages c now ceiling rotation pools).left)
      = loop ceiling (pageStep c now rotation) pools := by
  induction ceiling generalizing rotation pools with
  | zero => rfl
  | succ ceiling ih =>
      rw [drawPages, loop, pageStep_succ, pageStep, Rotation.focusAt_zero]
      cases hdraw : drawPage c now rotation.focus pools with
      | mk page? left =>
          cases page? with
          | none => rw [drawPage_none hdraw]
          | some page =>
              have hlater := ih rotation.advance left
              dsimp only [PageRun.cons]
              rw [← hlater]

/-- What it takes to draw a page, and what the page leaves. -/
structure IsPageStep (c : Config) (now : Instant) (focus : Focus) (pools : Pools) (page : Page)
    (left : Pools) : Prop where
  headlines_ne_nil : page.headlines ≠ []
  page_eq : page = (fillSlots id c now focus.category pools.articles.items).1.toPage focus.category
    (drawDeals c focus.deals pools.deals).1
  articles_left : left.articles.items =
    (fillSlots id c now focus.category pools.articles.items).2
  deals_left : left.deals = (drawDeals c focus.deals pools.deals).2

theorem isPageStep_of_drawPage {c : Config} {now : Instant} {focus : Focus} {pools left : Pools}
    {page : Page} (h : drawPage c now focus pools = (some page, left)) :
    IsPageStep c now focus pools page left := by
  rw [drawPage_eq] at h
  dsimp only at h
  split at h
  · cases (Prod.mk.inj h).1
  · rename_i hne
    obtain ⟨hpage, rfl⟩ := Prod.mk.inj h
    obtain rfl := Option.some.inj hpage
    exact ⟨by simpa [ArticleSlots.toPage] using hne, rfl, rfl, rfl⟩

/-- A page that a step draws is drawn with the focus of this step. -/
theorem drawPage_of_pageStep {c : Config} {now : Instant} {rotation : Rotation} {i : Nat}
    {pools left : Pools} {page : Page} (h : pageStep c now rotation i pools = some (page, left)) :
    drawPage c now (rotation.focusAt i) pools = (some page, left) := by
  cases hdraw : drawPage c now (rotation.focusAt i) pools with
  | mk page? left' =>
      rw [pageStep, hdraw] at h
      cases page? with
      | none => cases h
      | some page' =>
          obtain ⟨rfl, rfl⟩ := Prod.mk.inj (Option.some.inj h)
          rfl

theorem pageStep_eq_some {c : Config} {now : Instant} {rotation : Rotation} {i : Nat}
    {pools left : Pools} {page : Page} (h : pageStep c now rotation i pools = some (page, left)) :
    IsPageStep c now (rotation.focusAt i) pools page left :=
  isPageStep_of_drawPage (drawPage_of_pageStep h)

/-- Whether a page can be drawn is a matter of the article pool alone. -/
theorem pageStep_eq_none_iff {c : Config} {now : Instant} {rotation : Rotation} {i : Nat}
    {pools : Pools} : pageStep c now rotation i pools = none ↔
      (headlineDraw id c pools.articles.items).1 = [] := by
  have hheadlines : (fillSlots id c now (rotation.focusAt i).category
      pools.articles.items).1.headlines = (headlineDraw id c pools.articles.items).1 := rfl
  rw [pageStep_eq, ← List.isEmpty_iff, ← hheadlines]
  dsimp only
  split
  · rename_i hnone
    exact ⟨fun _ => hnone, fun _ => rfl⟩
  · rename_i hsome
    exact ⟨fun h => (Option.some_ne_none _ h).elim, fun h => (hsome h).elim⟩

namespace IsPageStep

variable {c : Config} {now : Instant} {focus : Focus} {pools left : Pools} {page : Page}

theorem slots (h : IsPageStep c now focus pools page left) :
    page.slots = (fillSlots id c now focus.category pools.articles.items).1 := by
  rw [h.page_eq]
  apply slots_toPage
  intro hnone
  rw [hnone]
  exact fillSlots_category_of_none c now pools.articles.items

theorem headlines_eq (h : IsPageStep c now focus pools page left) :
    page.headlines = (fillSlots id c now focus.category pools.articles.items).1.headlines :=
  congrArg ArticleSlots.headlines h.slots

theorem categoryItems_eq (h : IsPageStep c now focus pools page left) :
    page.categoryItems = (fillSlots id c now focus.category pools.articles.items).1.category :=
  congrArg ArticleSlots.category h.slots

theorem publisherItems_eq (h : IsPageStep c now focus pools page left) :
    page.publisherItems = (fillSlots id c now focus.category pools.articles.items).1.publisher :=
  congrArg ArticleSlots.publisher h.slots

theorem recent_eq (h : IsPageStep c now focus pools page left) :
    page.recent = (fillSlots id c now focus.category pools.articles.items).1.recent :=
  congrArg ArticleSlots.recent h.slots

theorem deals (h : IsPageStep c now focus pools page left) :
    page.deals = (drawDeals c focus.deals pools.deals).1 := by
  rw [h.page_eq]
  rfl

/-- The article slots of a page keep their limits. -/
theorem slots_fits (h : IsPageStep c now focus pools page left) : page.slots.Fits c := by
  rw [h.slots]
  exact fillSlots_fits id c now focus.category pools.articles.items

/-- A category group is that of the category in focus, and it is not empty. -/
theorem category_eq_some (h : IsPageStep c now focus pools page left) {g : CategoryGroup}
    (hg : page.category = some g) :
    focus.category = some g.category ∧ g.items = page.categoryItems ∧ g.items ≠ [] := by
  have hitems : page.categoryItems = g.items := by rw [Page.categoryItems, hg, Option.elim]
  rw [h.page_eq, ArticleSlots.toPage] at hg
  obtain ⟨k, hk, hsome⟩ := Option.bind_eq_some_iff.mp hg
  split at hsome
  · cases hsome
  · rename_i hne
    obtain rfl := Option.some.inj hsome
    exact ⟨hk, hitems.symm, by simpa using hne⟩

/-- A publisher group has an anchor, its first article, which gives the id and the name. -/
theorem publisher_eq_some (h : IsPageStep c now focus pools page left) {g : PublisherGroup}
    (hg : page.publisher = some g) :
    g.items = page.publisherItems ∧ ∃ anchor, g.items.head? = some anchor ∧
      anchor.publisherId = g.publisherId ∧ anchor.publisherName = g.name := by
  have hitems : page.publisherItems = g.items := by rw [Page.publisherItems, hg, Option.elim]
  rw [h.page_eq, ArticleSlots.toPage] at hg
  obtain ⟨anchor, hanchor, rfl⟩ := Option.map_eq_some_iff.mp hg
  exact ⟨hitems.symm, anchor, hanchor, rfl, rfl⟩

/-- Each article goes to the page or is left. -/
theorem articles_perm (h : IsPageStep c now focus pools page left) :
    (page.articles ++ left.articles.items).Perm pools.articles.items := by
  have hall : page.articles = (fillSlots id c now focus.category pools.articles.items).1.all :=
    congrArg ArticleSlots.all h.slots
  rw [hall, h.articles_left]
  exact fillSlots_perm id c now focus.category pools.articles.items

/-- Each deal goes to the page or is left. -/
theorem deals_perm (h : IsPageStep c now focus pools page left) :
    (page.deals ++ left.deals.items).Perm pools.deals.items := by
  rw [h.deals, h.deals_left]
  exact drawDeals_perm c focus.deals pools.deals

theorem articles_sublist (h : IsPageStep c now focus pools page left) :
    left.articles.items.Sublist pools.articles.items := by
  rw [h.articles_left]
  exact fillSlots_left_sublist id c now focus.category pools.articles.items

theorem deals_sublist (h : IsPageStep c now focus pools page left) :
    left.deals.items.Sublist pools.deals.items := by
  rw [h.deals_left]
  exact drawDeals_left_sublist c focus.deals pools.deals

end IsPageStep

/-! ## Whole runs -/

/-- The queues after a number of pages. -/
def Rotation.skip (r : Rotation) (n : Nat) : Rotation := ⟨r.categories.drop n, r.deals.drop n⟩

theorem Rotation.focusAt_skip (r : Rotation) (n i : Nat) :
    (r.skip n).focusAt i = r.focusAt (i + n) := by
  simp [Rotation.focusAt, Rotation.skip, Nat.add_comm]

theorem pageStep_skip (c : Config) (now : Instant) (rotation : Rotation) (n : Nat) :
    (fun i => pageStep c now rotation (i + n)) = pageStep c now (rotation.skip n) := by
  funext i pools
  simp only [pageStep, Rotation.focusAt_skip]

/-- The pools that page `i` of a run is drawn from: what a run of `i` pages leaves. -/
def poolsAt (c : Config) (now : Instant) (rotation : Rotation) (pools : Pools) (i : Nat) : Pools :=
  (drawPages c now i rotation pools).left

section Run

variable (c : Config) (now : Instant) (ceiling : Nat) (rotation : Rotation) (pools : Pools)

theorem drawPages_pages_eq :
    (drawPages c now ceiling rotation pools).pages =
      (loop ceiling (pageStep c now rotation) pools).1 :=
  congrArg Prod.fst (drawPages_eq_loop c now ceiling rotation pools)

theorem drawPages_left_eq :
    (drawPages c now ceiling rotation pools).left =
      (loop ceiling (pageStep c now rotation) pools).2 :=
  congrArg Prod.snd (drawPages_eq_loop c now ceiling rotation pools)

/-- Each article goes to one page or is left. -/
theorem drawPages_articles_perm :
    ((drawPages c now ceiling rotation pools).pages.flatMap Page.articles ++
      (drawPages c now ceiling rotation pools).left.articles.items).Perm pools.articles.items := by
  rw [drawPages_pages_eq, drawPages_left_eq]
  exact loop_perm (fun pools : Pools => pools.articles.items) Page.articles
    (fun _ _ _ _ h => (pageStep_eq_some h).articles_perm) ceiling pools

/-- Each deal goes to one page or is left. -/
theorem drawPages_deals_perm :
    ((drawPages c now ceiling rotation pools).pages.flatMap Page.deals ++
      (drawPages c now ceiling rotation pools).left.deals.items).Perm pools.deals.items := by
  rw [drawPages_pages_eq, drawPages_left_eq]
  exact loop_perm (fun pools : Pools => pools.deals.items) Page.deals
    (fun _ _ _ _ h => (pageStep_eq_some h).deals_perm) ceiling pools

/-- The articles that are left keep their order. -/
theorem drawPages_articles_sublist :
    (drawPages c now ceiling rotation pools).left.articles.items.Sublist pools.articles.items := by
  rw [drawPages_left_eq]
  exact loop_invariant (fun left => left.articles.items.Sublist pools.articles.items)
    (fun _ _ _ _ h hinv => (pageStep_eq_some h).articles_sublist.trans hinv) ceiling (.refl _)

/-- The deals that are left keep their order. -/
theorem drawPages_deals_sublist :
    (drawPages c now ceiling rotation pools).left.deals.items.Sublist pools.deals.items := by
  rw [drawPages_left_eq]
  exact loop_invariant (fun left => left.deals.items.Sublist pools.deals.items)
    (fun _ _ _ _ h hinv => (pageStep_eq_some h).deals_sublist.trans hinv) ceiling (.refl _)

/-- Each page is drawn from what the pages before it have left, and the pages after it are the run
from what it leaves. -/
theorem drawPages_split {before after : List Page} {page : Page}
    (h : (drawPages c now ceiling rotation pools).pages = before ++ page :: after) :
    ∃ next, IsPageStep c now (rotation.focusAt before.length)
        (drawPages c now before.length rotation pools).left page next ∧
      (drawPages c now (ceiling - (before.length + 1)) (rotation.skip (before.length + 1))
        next).pages = after ∧
      (drawPages c now (ceiling - (before.length + 1)) (rotation.skip (before.length + 1))
        next).left = (drawPages c now ceiling rotation pools).left := by
  rw [drawPages_pages_eq] at h
  obtain ⟨next, hstep, hlater⟩ := loop_split h
  rw [pageStep_skip] at hlater
  refine ⟨next, ?_, ?_, ?_⟩
  · rw [drawPages_left_eq]
    exact pageStep_eq_some hstep
  · rw [drawPages_pages_eq, hlater]
  · rw [drawPages_left_eq, drawPages_left_eq, hlater]

/-- Page `i` is drawn with focus `i` of the rotation, whatever the pages before it show. -/
theorem pageStep_of_getElem? {i : Nat} {page : Page}
    (h : (drawPages c now ceiling rotation pools).pages[i]? = some page) :
    pageStep c now rotation i (poolsAt c now rotation pools i) =
      some (page, poolsAt c now rotation pools (i + 1)) := by
  rw [drawPages_pages_eq] at h
  rw [poolsAt, poolsAt, drawPages_left_eq, drawPages_left_eq]
  exact loop_getElem? h

theorem isPageStep_of_getElem? {i : Nat} {page : Page}
    (h : (drawPages c now ceiling rotation pools).pages[i]? = some page) :
    IsPageStep c now (rotation.focusAt i) (poolsAt c now rotation pools i) page
      (poolsAt c now rotation pools (i + 1)) :=
  pageStep_eq_some (pageStep_of_getElem? c now ceiling rotation pools h)

/-- What holds of every page that can be drawn holds of the pages of a run. -/
theorem forall_mem_drawPages {good : Page → Prop}
    (hgood : ∀ focus pools page left, IsPageStep c now focus pools page left → good page) :
    ∀ page ∈ (drawPages c now ceiling rotation pools).pages, good page := by
  rw [drawPages_pages_eq]
  apply forall_mem_loop
  intro i pools page left hstep
  exact hgood _ _ _ _ (pageStep_eq_some hstep)

/-- What every page step of a run carries on holds of the pools at each of its pages, and of what it
leaves. -/
theorem poolsAt_induction (inv : Nat → Pools → Prop) (hzero : inv 0 pools)
    (hstep : ∀ i page, (drawPages c now ceiling rotation pools).pages[i]? = some page →
      inv i (poolsAt c now rotation pools i) → inv (i + 1) (poolsAt c now rotation pools (i + 1)))
    {n : Nat} (hn : n ≤ (drawPages c now ceiling rotation pools).pages.length) :
    inv n (poolsAt c now rotation pools n) := by
  induction n with
  | zero => exact hzero
  | succ n ih => exact hstep n _ (List.getElem?_eq_getElem hn) (ih (Nat.le_of_succ_le hn))

/-- What a run leaves is what as many pages leave as it has drawn. -/
theorem poolsAt_length :
    poolsAt c now rotation pools (drawPages c now ceiling rotation pools).pages.length =
      (drawPages c now ceiling rotation pools).left := by
  rw [poolsAt, drawPages_left_eq, drawPages_left_eq, drawPages_pages_eq, loop_length_self]

/-- There are no more pages than the ceiling allows. -/
theorem drawPages_length_le : (drawPages c now ceiling rotation pools).pages.length ≤ ceiling := by
  rw [drawPages_pages_eq]
  exact loop_length_le ceiling pools

/-- A run that ends below the ceiling has found no headline in what it leaves. -/
theorem drawPages_stuck (h : (drawPages c now ceiling rotation pools).pages.length < ceiling) :
    (headlineDraw id c (drawPages c now ceiling rotation pools).left.articles.items).1 = [] := by
  rw [drawPages_pages_eq] at h
  rw [drawPages_left_eq]
  exact pageStep_eq_none_iff.mp (loop_stuck h)

end Run

end Newsfeed
