import Newsfeed.Proofs.PageStep
import Newsfeed.Proofs.RotationQueues
import Newsfeed.Proofs.Snapshot

/-! # Taking turns

A run hands page `i` entry `i` of both queues of the rotation, whatever the pages before it have
shown: an entry is used up with its page, and a queue that has run dry has no influence on the
other one. A category is in its queue only once, so it has its group on one page at most.

* `IsPageStep.category_eq_none`: a focus without articles is wasted on its page;
* `groupName?_sublist`: the groups of a run stand in the order of the queue;
* `countP_shuffled`: a category is counted among the articles of enabled publishers;
* `categories_take_turns`: which page a category can have its group on, in all feeds.
-/

namespace Newsfeed

/-- The category of the group on a page. -/
def Page.groupName? (p : Page) : Option String := p.category.map (·.category)

theorem Page.groupName?_eq_some {p : Page} {k : String} :
    p.groupName? = some k ↔ ∃ g, p.category = some g ∧ g.category = k := by
  rw [groupName?, Option.map_eq_some_iff]

/-! ## One page -/

namespace IsPageStep

variable {c : Config} {now : Instant} {focus : Focus} {pools left : Pools} {page : Page}

/-- Without an article of the category in focus among those that are no headlines, there is no
group. -/
theorem category_eq_none (h : IsPageStep c now focus pools page left)
    (hnone : ∀ it ∈ (drawHeadlines c pools.articles).2.items, focus.category ≠ some it.category) :
    page.category = none := by
  cases hg : page.category with
  | none => rfl
  | some g =>
      obtain ⟨-, hitems, hne⟩ := h.category_eq_some hg
      obtain ⟨it, hit⟩ := List.exists_mem_of_ne_nil _ hne
      rw [hitems, h.categoryItems_eq] at hit
      have hleft : it ∈ (headlineDraw id c pools.articles.items).2 :=
        (afterHeadlines_perm id c now focus.category pools.articles.items).mem_iff.mp
          (by simp [hit])
      exact absurd (focus_of_mem_category id c now _ _ hit) (hnone it hleft)

end IsPageStep

/-! ## Whole runs -/

/-- What is read off the pages in turn from a queue is in the order of the queue. -/
theorem filterMap_sublist_of_getElem? {read : Page → Option String} {pages : List Page}
    {queue : List String}
    (h : ∀ (i : Nat) (page : Page) k, pages[i]? = some page → read page = some k →
      queue[i]? = some k) :
    (pages.filterMap read).Sublist queue := by
  induction pages generalizing queue with
  | nil => exact List.nil_sublist _
  | cons page pages ih =>
      have hlater : (pages.filterMap read).Sublist queue.tail := by
        apply ih
        intro i page' k hpage hk
        rw [List.getElem?_tail]
        exact h (i + 1) page' k (by simpa using hpage) hk
      cases hread : read page with
      | none =>
          rw [List.filterMap_cons_none hread]
          exact hlater.trans (List.tail_sublist queue)
      | some k =>
          -- the first page can only show the entry that heads the queue
          have hhead := h 0 page k rfl hread
          rw [List.filterMap_cons_some hread]
          cases queue with
          | nil => simp at hhead
          | cons key queue =>
              obtain rfl : key = k := by simpa using hhead
              exact hlater.cons_cons key

section Run

variable (c : Config) (now : Instant) (ceiling : Nat) (rotation : Rotation) (pools : Pools)

/-- The group of page `i` is that of entry `i` of the queue. -/
theorem groupName?_drawPages {i : Nat} {page : Page} {k : String}
    (hpage : (drawPages c now ceiling rotation pools).pages[i]? = some page)
    (hk : page.groupName? = some k) : rotation.categories[i]? = some k := by
  obtain ⟨g, hg, rfl⟩ := Page.groupName?_eq_some.mp hk
  have hstep := isPageStep_of_getElem? c now ceiling rotation pools hpage
  exact (hstep.category_eq_some hg).1

/-- The groups of a run stand in the order of the queue. -/
theorem groupName?_sublist :
    ((drawPages c now ceiling rotation pools).pages.filterMap Page.groupName?).Sublist
      rotation.categories :=
  filterMap_sublist_of_getElem? fun _ _ _ hpage hk =>
    groupName?_drawPages c now ceiling rotation pools hpage hk

end Run

/-! ## All feeds -/

/-- Two entries behind the first one of a list whose tail is in order. -/
theorem rel_of_tail_pairwise {R : String → String → Prop} {queue : List String}
    (h : queue.tail.Pairwise R) {i j : Nat} (hi : 1 ≤ i) (hij : i < j) {u v : String}
    (hu : queue[i]? = some u) (hv : queue[j]? = some v) : R u v := by
  obtain ⟨i, rfl⟩ := Nat.exists_eq_add_of_le' hi
  obtain ⟨j, rfl⟩ := Nat.exists_eq_add_of_le' (Nat.le_trans hi (Nat.le_of_lt hij))
  rw [← List.getElem?_tail] at hu hv
  obtain ⟨hi', rfl⟩ := List.getElem?_eq_some_iff.mp hu
  obtain ⟨hj', rfl⟩ := List.getElem?_eq_some_iff.mp hv
  exact List.pairwise_iff_getElem.mp h i j hi' hj' (by omega)

/-- How often a category occurs among the articles of enabled publishers. -/
def Enablement.countCategory (enabled : Enablement) (items : List Item) (category : String) : Nat :=
  (enabled.filter items).countP fun it => it.isArticle && it.category == category

namespace Assembler

variable {σ : Type} (a : Assembler σ) (enabled : Enablement) (hosts : List String)
  (now : Instant) (items : List Item)

/-- The queue counts the articles of enabled publishers. -/
theorem countP_shuffled (hsh : a.shuffler.Permutes) (category : String) :
    (a.shuffled enabled hosts now items).countP (·.category == category) =
      enabled.countCategory items category := by
  have hprepare : (fun it : Item => it.category == category) ∘ Item.prepare a.config hosts now =
      fun it => it.category == category := by
    funext it
    simp
  rw [(a.shuffled_perm enabled hosts now items hsh).countP_eq, List.countP_map, hprepare,
    List.countP_filter, Enablement.countCategory]
  simp only [Bool.and_comm]

end Assembler

/-- Page `i` has entry `i` of both queues as its focus, and nothing that the pages before it show
can shift this. So a category has its group on one page at most: the lead category on the first
one, and the others in the order of their queue, the rarest first. A focus whose category has no
article left is wasted. The queue of deal categories lists all deals, the featured ones
included. -/
theorem categories_take_turns {σ : Type} (c : Config) (sh : Shuffler σ) (s : σ)
    (enabled : Enablement) (hosts : List String) (now : Instant) (items : List Item) :
    let a := Assembler.ofConfig c sh s
    let feed := (a.assemble enabled hosts now items).1.feed
    let lead := c.sanitized.leadCategory
    let queue := categoryQueue lead (a.shuffled enabled hosts now items)
    let deals := (rank c.sanitized hosts ((enabled.filter items).filter Item.isDeal)).map
      (Item.normalize c.sanitized now)
    (∃ pools : Nat → Pools, pools 0 = a.pagePools enabled hosts now items ∧
      ∀ (i : Nat) (page : Page), feed.pages[i]? = some page →
        drawPage c.sanitized now ⟨queue[i]?, (dealQueue deals)[i]?⟩ (pools i) =
          (some page, pools (i + 1)) ∧
        ((∀ it ∈ (drawHeadlines c.sanitized (pools i).articles).2.items,
          queue[i]? ≠ some it.category) → page.category = none)) ∧
    (∀ (i : Nat) (page : Page) g, feed.pages[i]? = some page → page.category = some g →
      queue[i]? = some g.category) ∧
    (∀ (page : Page) g, feed.pages[0]? = some page → page.category = some g → g.category = lead) ∧
    (feed.pages.filterMap Page.groupName?).Nodup ∧
    (∀ (i : Nat) (page : Page), feed.pages[i]? = some page → queue.length ≤ i →
      page.category = none) ∧
    (sh.Permutes → ∀ (i j : Nat) (p q : Page) g h, 1 ≤ i → i < j → feed.pages[i]? = some p →
      feed.pages[j]? = some q → p.category = some g → q.category = some h →
      enabled.countCategory items g.category ≤ enabled.countCategory items h.category) := by
  intro a feed lead queue deals
  let rotation := Rotation.ofItems lead (a.shuffled enabled hosts now items)
    (a.parts enabled hosts now items).deals
  let start := a.pagePools enabled hosts now items
  have hdeals : rotation.deals = dealQueue deals :=
    congrArg dealQueue (a.parts_deals enabled hosts now items)
  have hgroup : ∀ (i : Nat) (page : Page) g, feed.pages[i]? = some page → page.category = some g →
      queue[i]? = some g.category := by
    intro i page g hpage hg
    exact groupName?_drawPages c.sanitized now _ rotation start hpage
      (Page.groupName?_eq_some.mpr ⟨g, hg, rfl⟩)
  refine ⟨⟨poolsAt c.sanitized now rotation start, rfl, ?_⟩, hgroup, ?_, ?_, ?_, ?_⟩
  · -- every page is drawn with its entries of the queues
    intro i page hpage
    have hstep := pageStep_of_getElem? c.sanitized now _ rotation start hpage
    have hdraw := drawPage_of_pageStep hstep
    rw [Rotation.focusAt, hdeals] at hdraw
    exact ⟨hdraw, (pageStep_eq_some hstep).category_eq_none⟩
  · -- the first page
    intro page g hpage hg
    have hhead : some lead = some g.category := hgroup 0 page g hpage hg
    exact (Option.some.inj hhead).symm
  · -- no category twice
    exact (nodup_categoryQueue lead _).sublist
      (groupName?_sublist c.sanitized now _ rotation start)
  · -- pages beyond the queue
    intro i page hpage hdry
    cases hg : page.category with
    | none => rfl
    | some g =>
        have hentry := hgroup i page g hpage hg
        rw [List.getElem?_eq_none hdry] at hentry
        cases hentry
  · -- the rarest first
    intro hsh i j p q g h hi hij hp hq hg hh
    have hcount := rel_of_tail_pairwise (categoryQueue_pairwise lead _) hi hij
      (hgroup i p g hp hg) (hgroup j q h hq hh)
    rw [a.countP_shuffled enabled hosts now items hsh,
      a.countP_shuffled enabled hosts now items hsh] at hcount
    exact hcount

/-- Three headlines, and articles of three categories, with two of no category in between. -/
def threeTurns : List Item :=
  let headline := ((Item.article "headline" "").withImage "image").withPublisher "on" "On"
  let plain := fun category : String =>
    ((Item.article "plain" "").withCategory category).withPublisher "on" "On"
  [headline, plain "", headline, plain "", headline, plain "Top News", plain "Top News",
    plain "Cars", plain "Sports", plain "Sports"]

theorem categories_take_turns_sample :
    let a := Assembler.ofConfig { headlinesPerPage := 1, groupSize := 1 } Shuffler.identity ()
    let feed := (a.assemble sampleEnablement [] Instant.epoch threeTurns).1.feed
    Shuffler.identity.Permutes ∧
      feed.pages.map Page.groupName? = [some "Top News", some "Cars", some "Sports"] ∧
      sampleEnablement.countCategory threeTurns "Cars" ≤
        sampleEnablement.countCategory threeTurns "Sports" := by
  intro a feed
  have hfeed := a.assemble_feed_of_sorted sampleEnablement [] Instant.epoch threeTurns (by decide)
  let parts := partition a.config Instant.epoch
    ((sampleEnablement.filter threeTurns).map (Item.weigh a.config []))
  let articles := (shuffleTop a.shuffler a.config.shuffleTop a.state parts.articles).1
  have hrotation : Rotation.ofItems a.config.leadCategory articles parts.deals =
      ⟨["Top News", "Cars", "Sports"], []⟩ := by
    have hcategories : rarestFirst ((articles.map (·.category)).filter (· ≠ "Top News")) =
        ["Cars", "Sports"] := (rarestFirst_of_sorted (by decide)).trans (by decide)
    have hdeals : rarestFirst (parts.deals.filterMap (·.offersCategory?)) = [] :=
      (rarestFirst_of_sorted (by decide)).trans (by decide)
    rw [Rotation.ofItems, categoryQueue, dealQueue, hdeals]
    exact congrArg (fun queue => Rotation.mk ("Top News" :: queue) []) hcategories
  have hnames : feed.pages.map Page.groupName? =
      [some "Top News", some "Cars", some "Sports"] := by
    have hpages : feed.pages = _ := (congrArg Feed.pages hfeed).trans
      (arrange_pages a.config Instant.epoch hrotation)
    rw [hpages]
    decide
  have hgroup : ∀ (i : Nat) k, [some "Top News", some "Cars", some "Sports"][i]? = some (some k) →
      ∃ (page : Page) (g : CategoryGroup), feed.pages[i]? = some page ∧
        page.category = some g ∧ g.category = k := by
    intro i k hk
    rw [← hnames, List.getElem?_map] at hk
    obtain ⟨page, hpage, hname⟩ := Option.map_eq_some_iff.mp hk
    obtain ⟨g, hg, hcategory⟩ := Page.groupName?_eq_some.mp hname
    exact ⟨page, g, hpage, hg, hcategory⟩
  obtain ⟨p, g, hp, hg, hcars⟩ := hgroup 1 "Cars" rfl
  obtain ⟨q, h, hq, hh, hsports⟩ := hgroup 2 "Sports" rfl
  obtain ⟨-, -, -, -, -, hcount⟩ := categories_take_turns
    { headlinesPerPage := 1, groupSize := 1 } Shuffler.identity () sampleEnablement []
    Instant.epoch threeTurns
  have hle := hcount Shuffler.identity_permutes 1 2 p q g h (by decide) (by decide) hp hq hg hh
  rw [hcars, hsports] at hle
  exact ⟨Shuffler.identity_permutes, hnames, hle⟩

end Newsfeed
