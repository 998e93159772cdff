import Newsfeed.Proofs.Completeness
import Newsfeed.Proofs.Snapshot

/-! # Well-formed feeds

Whatever an assembly is given, the feed fits the layout of its pages and every slot shows what it
is there for. Three stages have a part in this, and each of them gives its part by itself:

* sanitizing bounds every slot (`Config.isValid_sanitized`), and the recency window can be measured
  (`Config.wholeSeconds_recentWindow`);
* drawing a page keeps the limits and the conditions of its slots (`IsPageStep.isWellFormed`);
* the filter and the split by kind decide which items there are to draw from
  (`Assembler.isArticle_of_mem_articles`, `Assembler.isDeal_of_mem_deals`).
-/

namespace Newsfeed

/-! ## What a well-formed feed is -/

/-- Published less than some hours before or after the present. -/
def Item.IsRecent (now : Instant) (hours : Int) (it : Item) : Prop :=
  ∃ t, it.publishedAt = some t ∧ (now.secondsApart t : Int) < hours * 3600

/-- One to three articles of the category that the group names. -/
structure CategoryGroup.IsWellFormed (g : CategoryGroup) : Prop where
  one_le_length : 1 ≤ g.items.length
  length_le : g.items.length ≤ 3
  isArticle : ∀ it ∈ g.items, it.isArticle = true
  category_eq : ∀ it ∈ g.items, it.category = g.category

/-- One to three articles of the publisher that the group names, by the name that its first article
gives. -/
structure PublisherGroup.IsWellFormed (g : PublisherGroup) : Prop where
  one_le_length : 1 ≤ g.items.length
  length_le : g.items.length ≤ 3
  isArticle : ∀ it ∈ g.items, it.isArticle = true
  publisherId_ne_empty : g.publisherId ≠ ""
  publisherId_eq : ∀ it ∈ g.items, it.publisherId = g.publisherId
  name_eq : g.items.head?.map (·.publisherName) = some g.name

/-- A page within the layout, each slot with items that belong there. -/
structure Page.IsWellFormed (now : Instant) (hours : Int) (p : Page) : Prop where
  one_le_headlines : 1 ≤ p.headlines.length
  headlines_le : p.headlines.length ≤ 13
  headlines : ∀ it ∈ p.headlines, it.isArticle = true ∧ it.hasImage = true
  recent_le : p.recent.length ≤ 4
  recent : ∀ it ∈ p.recent, it.isArticle = true ∧ it.IsRecent now hours
  deals_le : p.deals.length ≤ 3
  deals : ∀ it ∈ p.deals, it.isDeal = true
  category : ∀ g, p.category = some g → g.IsWellFormed
  publisher : ∀ g, p.publisher = some g → g.IsWellFormed

/-- A feed within the layout: every page is well-formed, the featured items are what they are
featured as, and every item is from a publisher that is on. -/
structure Feed.IsWellFormed (c : Config) (enabled : Enablement) (now : Instant) (f : Feed) :
    Prop where
  featuredDeals_le : f.featuredDeals.length ≤ 3
  featuredDeals : ∀ it ∈ f.featuredDeals, it.isDeal = true
  featuredArticle : ∀ it, f.featuredArticle = some it →
    it.isArticle = true ∧ it.category = c.leadCategory
  pages_le : f.pages.length ≤ 4000
  pages : ∀ p ∈ f.pages, p.IsWellFormed now c.recentWindowHours
  enabled : ∀ it ∈ f.items, enabled.get? it.publisherId = some true

/-! ## One page -/

theorem Item.isRecent_of_isWithin {c : Config} (hc : c.IsValid) {now : Instant} {it : Item}
    (h : isWithin now c.recentWindow it = true) : it.IsRecent now c.recentWindowHours := by
  unfold isWithin at h
  split at h
  · rename_i t ht
    rw [Config.wholeSeconds_recentWindow hc] at h
    exact ⟨t, ht, by simpa using h⟩
  · cases h

namespace IsPageStep

variable {c : Config} {now : Instant} {focus : Focus} {pools left : Pools} {page : Page}

theorem category_isWellFormed (h : IsPageStep c now focus pools page left) (hc : c.IsValid)
    (harticles : ∀ it ∈ page.articles, it.isArticle = true) {g : CategoryGroup}
    (hg : page.category = some g) : g.IsWellFormed := by
  obtain ⟨hfocus, hitems, hne⟩ := h.category_eq_some hg
  constructor
  case one_le_length => exact List.length_pos_iff.mpr hne
  case length_le =>
    rw [hitems]
    exact Nat.le_trans h.slots_fits.category_le hc.group_le
  case isArticle =>
    intro it hit
    rw [hitems] at hit
    exact harticles it (by simp [Page.articles, hit])
  case category_eq =>
    intro it hit
    rw [hitems, h.categoryItems_eq] at hit
    have hcategory := focus_of_mem_category id c now _ _ hit
    exact Option.some.inj (hcategory.symm.trans hfocus)

theorem publisher_isWellFormed (h : IsPageStep c now focus pools page left) (hc : c.IsValid)
    (harticles : ∀ it ∈ page.articles, it.isArticle = true) {g : PublisherGroup}
    (hg : page.publisher = some g) : g.IsWellFormed := by
  obtain ⟨hitems, anchor, hanchor, hid, hname⟩ := h.publisher_eq_some hg
  -- the slot has one publisher: the one that came next when it was filled
  have hnext : ∀ it ∈ g.items, nextPublisher? ((categoryDraw id c focus.category
      (headlineDraw id c pools.articles.items).2).2.map id) = some it.publisherId := by
    intro it hit
    rw [hitems, h.publisherItems_eq] at hit
    exact nextPublisher?_of_mem_publisher id c now _ _ hit
  have hmem : anchor ∈ g.items := List.mem_of_head? hanchor
  constructor
  case one_le_length => exact List.length_pos_iff.mpr (List.ne_nil_of_mem hmem)
  case length_le =>
    rw [hitems]
    exact Nat.le_trans h.slots_fits.publisher_le hc.group_le
  case isArticle =>
    intro it hit
    rw [hitems] at hit
    exact harticles it (by simp [Page.articles, hit])
  case publisherId_ne_empty =>
    rw [← hid]
    exact nextPublisher?_ne_empty (hnext anchor hmem)
  case publisherId_eq =>
    intro it hit
    have hsame := (hnext it hit).symm.trans (hnext anchor hmem)
    rw [Option.some.inj hsame, hid]
  case name_eq => rw [hanchor, Option.map_some, hname]

/-- A page drawn with valid settings is well-formed, if its articles come from a pool of articles
and its deals from a pool of deals. -/
theorem isWellFormed (h : IsPageStep c now focus pools page left) (hc : c.IsValid)
    (harticles : ∀ it ∈ page.articles, it.isArticle = true)
    (hdeals : ∀ it ∈ page.deals, it.isDeal = true) :
    page.IsWellFormed now c.recentWindowHours := by
  constructor
  case one_le_headlines => exact List.length_pos_iff.mpr h.headlines_ne_nil
  case headlines_le => exact Nat.le_trans h.slots_fits.headlines_le hc.headlines_le
  case headlines =>
    intro it hit
    have harticle := harticles it (by simp [Page.articles, hit])
    rw [h.headlines_eq] at hit
    exact ⟨harticle, hasImage_of_mem_headlines id c now _ _ hit⟩
  case recent_le => exact Nat.le_trans h.slots_fits.recent_le hc.recent_le
  case recent =>
    intro it hit
    have harticle := harticles it (by simp [Page.articles, hit])
    rw [h.recent_eq] at hit
    exact ⟨harticle, Item.isRecent_of_isWithin hc (isWithin_of_mem_recent id c now _ _ hit)⟩
  case deals_le =>
    have hle : page.deals.length ≤ c.dealsPerPage := by
      rw [h.deals]
      rw [length_drawDeals]
      exact Nat.min_le_left _ _
    exact Nat.le_trans hle hc.deals_le
  case deals => exact hdeals
  case category => exact fun g hg => h.category_isWellFormed hc harticles hg
  case publisher => exact fun g hg => h.publisher_isWellFormed hc harticles hg

end IsPageStep

/-! ## Assembled feeds -/

namespace Assembler

variable {σ : Type} (a : Assembler σ) (enabled : Enablement) (hosts : List String)
  (now : Instant) (items : List Item)

/-- The articles of a feed are articles of publishers that are on. -/
theorem isArticle_of_mem_articles (hsh : a.shuffler.Permutes) {it : Item}
    (h : it ∈ (a.assemble enabled hosts now items).1.feed.articles) :
    it.isArticle = true ∧ enabled.isOn it.publisherId = true := by
  have hmem := (articles_perm a enabled hosts now items hsh).mem_iff.mp (List.mem_append_left _ h)
  obtain ⟨raw, hraw, rfl⟩ := List.mem_map.mp hmem
  obtain ⟨hkept, harticle⟩ := List.mem_filter.mp hraw
  have hon := (List.mem_filter.mp hkept).2
  exact ⟨by simpa using harticle, by simpa using hon⟩

/-- The deals of a feed are deals of publishers that are on. -/
theorem isDeal_of_mem_deals {it : Item}
    (h : it ∈ (a.assemble enabled hosts now items).1.feed.deals) :
    it.isDeal = true ∧ enabled.isOn it.publisherId = true := by
  have hmem := (deals_perm a enabled hosts now items).mem_iff.mp (List.mem_append_left _ h)
  obtain ⟨raw, hraw, rfl⟩ := List.mem_map.mp hmem
  obtain ⟨hkept, hdeal⟩ := List.mem_filter.mp hraw
  have hon := (List.mem_filter.mp hkept).2
  exact ⟨by simpa using hdeal, by simpa using hon⟩

/-- Every item of a feed is from a publisher that is on. -/
theorem isOn_of_mem_items (hsh : a.shuffler.Permutes) {it : Item}
    (h : it ∈ (a.assemble enabled hosts now items).1.feed.items) :
    enabled.isOn it.publisherId = true := by
  rcases List.mem_append.mp ((Feed.items_perm _).mem_iff.mp h) with harticle | hdeal
  · exact (a.isArticle_of_mem_articles enabled hosts now items hsh harticle).2
  · exact (a.isDeal_of_mem_deals enabled hosts now items hdeal).2

/-- The featured article has the lead category. -/
theorem category_of_featured {it : Item}
    (h : (a.assemble enabled hosts now items).1.feed.featuredArticle = some it) :
    it.category = a.config.leadCategory := by
  rw [assemble_feed, drawFeatured_eq] at h
  simpa using List.find?_some h

/-- The pages of an assembly with valid settings are well-formed. -/
theorem pages_isWellFormed (hc : a.config.IsValid) (hsh : a.shuffler.Permutes) :
    ∀ page ∈ (a.assemble enabled hosts now items).1.feed.pages,
      page.IsWellFormed now a.config.recentWindowHours := by
  intro page hpage
  have harticles : ∀ it ∈ page.articles, it.isArticle = true := by
    intro it hit
    have hfeed : it ∈ (a.assemble enabled hosts now items).1.feed.articles :=
      List.mem_append_right _ (List.mem_flatMap_of_mem hpage hit)
    exact (a.isArticle_of_mem_articles enabled hosts now items hsh hfeed).1
  have hdeals : ∀ it ∈ page.deals, it.isDeal = true := by
    intro it hit
    have hfeed : it ∈ (a.assemble enabled hosts now items).1.feed.deals :=
      List.mem_append_right _ (List.mem_flatMap_of_mem hpage hit)
    exact (a.isDeal_of_mem_deals enabled hosts now items hfeed).1
  obtain ⟨i, hi⟩ := List.mem_iff_getElem?.mp hpage
  exact (isPageStep_of_getElem? _ _ _ _ _ hi).isWellFormed hc harticles hdeals

end Assembler

/-- Every assembled feed is well-formed, whatever the input and the settings, and for every shuffler
that permutes. The limits are those of the page layout; the lead category and the recency window are
those of the sanitized settings. -/
theorem feed_isWellFormed {σ : Type} (c : Config) {sh : Shuffler σ} (hsh : sh.Permutes) (s : σ)
    (enabled : Enablement) (hosts : List String) (now : Instant) (items : List Item) :
    ((Assembler.ofConfig c sh s).assemble enabled hosts now items).1.feed.IsWellFormed
      c.sanitized enabled now := by
  let a := Assembler.ofConfig c sh s
  have hc : a.config.IsValid := c.isValid_sanitized
  constructor
  case featuredDeals_le =>
    have hle : (a.assemble enabled hosts now items).1.feed.featuredDeals.length ≤
        a.config.featuredDeals := by
      rw [Assembler.assemble_feed]
      exact List.length_take_le _ _
    exact Nat.le_trans hle hc.featured_le
  case featuredDeals =>
    intro it hit
    exact (a.isDeal_of_mem_deals enabled hosts now items (List.mem_append_left _ hit)).1
  case featuredArticle =>
    intro it hit
    have hfeed : it ∈ (a.assemble enabled hosts now items).1.feed.articles :=
      List.mem_append_left _ (by simpa using hit)
    exact ⟨(a.isArticle_of_mem_articles enabled hosts now items hsh hfeed).1,
      a.category_of_featured enabled hosts now items hit⟩
  case pages_le => exact Nat.le_trans (drawPages_length_le _ _ _ _ _) hc.pages_le
  case pages => exact a.pages_isWellFormed enabled hosts now items hc hsh
  case enabled =>
    intro it hit
    have hon := a.isOn_of_mem_items enabled hosts now items hsh hit
    simpa [Enablement.isOn] using hon

/-- Settings that no assembly can run with: no lead, no headlines, slots of any size, and a window
that lies in the past. -/
def unusableConfig : Config :=
  { leadCategory := " ", headlinesPerPage := 0, recentPerPage := 1000000, groupSize := 1000000,
    dealsPerPage := 1000000, recentWindowHours := -1, maxPages := 0 }

theorem feed_isWellFormed_sample :
    let a := Assembler.ofConfig unusableConfig Shuffler.reversal ()
    let feed := (a.assemble sampleEnablement [] Instant.epoch sampleSnapshot).1.feed
    Shuffler.reversal.Permutes ∧ feed.featuredArticle.isSome = true ∧ feed.pages.length = 1 ∧
      feed.IsWellFormed unusableConfig.sanitized sampleEnablement Instant.epoch := by
  intro a feed
  have hfeed := a.assemble_feed_of_sorted sampleEnablement [] Instant.epoch sampleSnapshot
    (by decide)
  refine ⟨Shuffler.reversal_permutes, ?_, ?_, ?_⟩
  · simp only [feed, hfeed]
    decide
  · simp only [feed, hfeed]
    decide
  · exact feed_isWellFormed unusableConfig Shuffler.reversal_permutes () sampleEnablement []
      Instant.epoch sampleSnapshot

end Newsfeed
