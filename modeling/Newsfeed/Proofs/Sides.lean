import Newsfeed.Proofs.Snapshot

/-! # The article side and the deal side

Articles and deals share the ranking, the two queues of the rotation and the pages, and still they
do not meet: a page draws its articles by the category in focus from the article pool, and its deals
by the category of deals in focus from the deal pool. The articles alone decide how many pages there
are.

* `drawPages_withoutDeals`: the pages of a run but for their deals are those of a run that has none;
* `dealRun`: the deals of one page after the other, for as many pages as one likes;
* `drawPages_deals_eq`: the deals of a page are those of `dealRun`, whatever the articles are;
* `sides_independent`: neither side of an assembled feed depends on the other.
-/

namespace Newsfeed

/-- The page with its deals taken out. -/
def Page.withoutDeals (p : Page) : Page := { p with deals := [] }

section Run

variable (c : Config) (now : Instant) (ceiling : Nat) (rotation : Rotation) (pools : Pools)

/-! ## The article side -/

theorem drawDeals_nil : drawDeals c none {} = ([], {}) := by
  simp [drawDeals, Pool.takeFront]

theorem pageStep_withoutDeals (i : Nat) :
    pageStep c now ⟨rotation.categories, []⟩ i ⟨pools.articles, {}⟩ =
      (pageStep c now rotation i pools).map
        (Prod.map Page.withoutDeals fun left => ⟨left.articles, {}⟩) := by
  have hfocus : (Rotation.mk rotation.categories []).focusAt i =
      ⟨(rotation.focusAt i).category, none⟩ := by
    simp [Rotation.focusAt]
  simp only [pageStep_eq, hfocus, drawDeals_nil]
  split
  · rfl
  · rfl

/-- The pages of a run but for their deals are the pages of a run that has no deals at all. -/
theorem drawPages_withoutDeals :
    (drawPages c now ceiling rotation pools).pages.map Page.withoutDeals =
      (drawPages c now ceiling ⟨rotation.categories, []⟩ ⟨pools.articles, {}⟩).pages := by
  have hrun := loop_simulates (fun i pools => pageStep_withoutDeals c now rotation pools i)
    ceiling pools
  rw [drawPages_pages_eq, drawPages_pages_eq, hrun]
  rfl

/-! ## The deal side -/

/-- The step that draws the deals of page `i`. There may always be another page. -/
def dealStep (queue : List String) (i : Nat) (deals : Pool Item) :
    Option (List Item × Pool Item) :=
  some (drawDeals c queue[i]? deals)

/-- The deals of the first pages, and what they leave. -/
def dealRun (queue : List String) (pages : Nat) (deals : Pool Item) :
    List (List Item) × Pool Item :=
  loop pages (dealStep c queue) deals

/-- The deals of the pages of a run are those of as many pages of `dealRun`. -/
theorem dealRun_drawPages :
    dealRun c rotation.deals (drawPages c now ceiling rotation pools).pages.length pools.deals =
      ((drawPages c now ceiling rotation pools).pages.map Page.deals,
        (drawPages c now ceiling rotation pools).left.deals) := by
  rw [drawPages_pages_eq, drawPages_left_eq]
  show loop _ (dealStep c rotation.deals) (Pools.deals pools) =
    Prod.map (List.map Page.deals) Pools.deals (loop ceiling (pageStep c now rotation) pools)
  -- a run of pages may end before its deals do, but while it goes on it draws the same deals
  apply loop_follows
  intro i pools page left hstep
  have h := pageStep_eq_some hstep
  have hfocus : (rotation.focusAt i).deals = rotation.deals[i]? := rfl
  rw [h.deals, h.deals_left, hfocus]
  rfl

/-- The deals of page `i` are the last ones of a `dealRun` that ends with this page. -/
theorem drawPages_deals_eq {i : Nat} {page : Page}
    (h : (drawPages c now ceiling rotation pools).pages[i]? = some page) :
    (dealRun c rotation.deals (i + 1) pools.deals).1[i]? = some page.deals := by
  have hlength : i + 1 ≤ (drawPages c now ceiling rotation pools).pages.length := by
    obtain ⟨hlt, -⟩ := List.getElem?_eq_some_iff.mp h
    exact hlt
  have hdeals := congrArg Prod.fst (dealRun_drawPages c now ceiling rotation pools)
  rw [dealRun] at hdeals ⊢
  rw [loop_take hlength, hdeals, List.getElem?_take_of_lt (Nat.lt_succ_self i),
    List.getElem?_map, h]
  rfl

end Run

/-! ## Assembled feeds -/

namespace Assembler

variable {σ : Type} (a : Assembler σ) (enabled : Enablement) (hosts : List String)
  (now : Instant) (items items' : List Item)

/-- The articles in their final order determine the feed but for its deals. -/
theorem articleSide_congr
    (h : a.shuffled enabled hosts now items = a.shuffled enabled hosts now items') :
    (a.assemble enabled hosts now items).1.feed.featuredArticle =
        (a.assemble enabled hosts now items').1.feed.featuredArticle ∧
      (a.assemble enabled hosts now items).1.feed.pages.map Page.withoutDeals =
        (a.assemble enabled hosts now items').1.feed.pages.map Page.withoutDeals := by
  simp only [assemble_feed, pageRun, drawPages_withoutDeals]
  simp only [Rotation.ofItems, pagePools, h, and_self]

/-- The deals of page `i` are those of a `dealRun` over the ranked deals that are not featured. -/
theorem pages_deals_eq {i : Nat} {page : Page}
    (h : (a.assemble enabled hosts now items).1.feed.pages[i]? = some page) :
    (dealRun a.config (dealQueue (a.parts enabled hosts now items).deals) (i + 1)
      ⟨(a.parts enabled hosts now items).deals.drop a.config.featuredDeals⟩).1[i]? =
        some page.deals :=
  drawPages_deals_eq a.config now a.config.maxPages _ _ h

end Assembler

/-- The two sides of a feed are independent. Snapshots with the same enabled articles in the same
order, whatever else they hold, give the same featured article, as many pages, and the same pages
but for their deals. Snapshots with the same enabled deals in the same order, whatever else they
hold and however the articles are shuffled, give the same featured deals, and the same deals on
every page that both feeds have. -/
theorem sides_independent (c : Config) (enabled : Enablement) (hosts : List String)
    (now : Instant) (items items' : List Item) :
    ((enabled.filter items).filter Item.isArticle =
        (enabled.filter items').filter Item.isArticle →
      ∀ {σ : Type} (sh : Shuffler σ) (s : σ),
        let feed := ((Assembler.ofConfig c sh s).assemble enabled hosts now items).1.feed
        let feed' := ((Assembler.ofConfig c sh s).assemble enabled hosts now items').1.feed
        feed.featuredArticle = feed'.featuredArticle ∧
          feed.pages.map Page.withoutDeals = feed'.pages.map Page.withoutDeals) ∧
    ((enabled.filter items).filter Item.isDeal = (enabled.filter items').filter Item.isDeal →
      ∀ {σ τ : Type} (sh : Shuffler σ) (s : σ) (sh' : Shuffler τ) (s' : τ),
        let feed := ((Assembler.ofConfig c sh s).assemble enabled hosts now items).1.feed
        let feed' := ((Assembler.ofConfig c sh' s').assemble enabled hosts now items').1.feed
        feed.featuredDeals = feed'.featuredDeals ∧
          ∀ (i : Nat) (page page' : Page), feed.pages[i]? = some page →
            feed'.pages[i]? = some page' → page.deals = page'.deals) := by
  constructor
  · intro harticles σ sh s
    have hranked := (Assembler.ofConfig c sh s).parts_articles_congr enabled enabled hosts now
      items items' harticles
    apply Assembler.articleSide_congr
    rw [Assembler.shuffled, Assembler.shuffled, hranked]
  · intro hdeals σ τ sh s sh' s' feed feed'
    have hranked : ((Assembler.ofConfig c sh s).parts enabled hosts now items).deals =
        ((Assembler.ofConfig c sh' s').parts enabled hosts now items').deals := by
      rw [Assembler.parts_deals, Assembler.parts_deals, hdeals]
      rfl
    constructor
    · exact congrArg (List.take c.sanitized.featuredDeals) hranked
    · intro i page page' hpage hpage'
      have h := Assembler.pages_deals_eq _ enabled hosts now items hpage
      have h' := Assembler.pages_deals_eq _ enabled hosts now items' hpage'
      rw [hranked] at h
      exact Option.some.inj (h.symm.trans h')

/-- Two articles that can be headlines, and a deal. -/
def sampleHeadline : Item :=
  ((Item.article "headline" "").withImage "image").withPublisher "on" "On"

def sampleOtherHeadline : Item :=
  ((Item.article "other" "").withImage "image").withPublisher "on" "On"

def sampleDeal : Item := (Item.deal "deal" "" "Books").withPublisher "on" "On"

theorem sides_independent_sample :
    let c : Config := { featuredDeals := 0 }
    let a := Assembler.ofConfig c Shuffler.reversal ()
    let b := Assembler.ofConfig c Shuffler.identity ()
    let feed := (a.assemble sampleEnablement [] Instant.epoch [sampleHeadline, sampleDeal]).1.feed
    let moreDeals :=
      (a.assemble sampleEnablement [] Instant.epoch [sampleDeal, sampleHeadline, sampleDeal]).1.feed
    let otherArticles :=
      (b.assemble sampleEnablement [] Instant.epoch [sampleDeal, sampleOtherHeadline]).1.feed
    feed.pages.map Page.withoutDeals = moreDeals.pages.map Page.withoutDeals ∧
      ∃ page page', feed.pages[0]? = some page ∧ otherArticles.pages[0]? = some page' ∧
        page.deals = page'.deals := by
  intro c a b feed moreDeals otherArticles
  have hpage : ∃ page, feed.pages[0]? = some page := by
    have hfeed := a.assemble_feed_of_sorted sampleEnablement [] Instant.epoch
      [sampleHeadline, sampleDeal] (by decide)
    rw [← Option.isSome_iff_exists]
    simp only [feed, hfeed]
    decide
  have hpage' : ∃ page, otherArticles.pages[0]? = some page := by
    have hfeed := b.assemble_feed_of_sorted sampleEnablement [] Instant.epoch
      [sampleDeal, sampleOtherHeadline] (by decide)
    rw [← Option.isSome_iff_exists]
    simp only [otherArticles, hfeed]
    decide
  obtain ⟨page, hpage⟩ := hpage
  obtain ⟨page', hpage'⟩ := hpage'
  have harticles := (sides_independent c sampleEnablement [] Instant.epoch
    [sampleHeadline, sampleDeal] [sampleDeal, sampleHeadline, sampleDeal]).1 (by decide)
    Shuffler.reversal ()
  have hdeals := (sides_independent c sampleEnablement [] Instant.epoch
    [sampleHeadline, sampleDeal] [sampleDeal, sampleOtherHeadline]).2 (by decide)
    Shuffler.reversal () Shuffler.identity ()
  exact ⟨harticles.2, page, page', hpage, hpage', hdeals.2 0 page page' hpage hpage'⟩

end Newsfeed
