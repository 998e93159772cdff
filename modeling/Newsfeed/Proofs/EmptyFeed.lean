import Newsfeed.Proofs.Termination

/-! # Empty feeds

A feed is empty if it features nothing and has no page. Since every page has a headline, this is the
same as having nothing to list. It comes down to the snapshot: valid settings leave room for a
headline and a page, so only three kinds of items keep a feed from being empty.

* `drawPages_pages_eq_nil_iff`: a run has no page if its first attempt fails;
* `Feed.items_eq_nil_iff`: a feed that lists nothing is empty;
* `Assembler.articles_absent_iff`, `Assembler.featuredDeals_eq_nil_iff`: what the snapshot has to do
  with it;
* `feed_isEmpty_iff`: exactly when a feed is empty.
-/

namespace Newsfeed

/-- A run that may have a page has none if its first attempt fails. -/
theorem drawPages_pages_eq_nil_iff {c : Config} {now : Instant} {ceiling : Nat}
    {rotation : Rotation} {pools : Pools} (hceiling : 1 ≤ ceiling) :
    (drawPages c now ceiling rotation pools).pages = [] ↔
      (drawPage c now rotation.focus pools).1 = none := by
  obtain ⟨ceiling, rfl⟩ := Nat.exists_eq_add_of_le' hceiling
  rw [drawPages]
  cases hdraw : drawPage c now rotation.focus pools with
  | mk page? left => cases page? <;> simp [PageRun.cons]

namespace Feed

theorem isEmpty_iff {f : Feed} :
    f.isEmpty = true ↔ f.featuredArticle = none ∧ f.featuredDeals = [] ∧ f.pages = [] := by
  simp only [isEmpty, Bool.and_eq_true, Option.isNone_iff_eq_none, List.isEmpty_iff, and_assoc]

/-- If every page shows something, a feed that lists nothing is empty. -/
theorem items_eq_nil_iff {f : Feed} (hpages : ∀ page ∈ f.pages, page.items ≠ []) :
    f.items = [] ↔ f.isEmpty = true := by
  have hnone : f.pages.flatMap Page.items = [] ↔ f.pages = [] := by
    rw [List.flatMap_eq_nil_iff]
    constructor
    · intro hnil
      exact List.eq_nil_iff_forall_not_mem.mpr fun page hpage => hpages page hpage (hnil page hpage)
    · intro hnil
      simp [hnil]
  rw [isEmpty_iff, items, List.append_eq_nil_iff, List.append_eq_nil_iff, hnone,
    Option.toList_eq_nil_iff, and_assoc]

end Feed

namespace Assembler

variable {σ : Type} (a : Assembler σ) (enabled : Enablement) (hosts : List String)
  (now : Instant) (items : List Item)

/-- Every page of a feed has a headline to list. -/
theorem items_ne_nil_of_mem_pages :
    ∀ page ∈ (a.assemble enabled hosts now items).1.feed.pages, page.items ≠ [] := by
  rw [assemble_feed]
  apply forall_mem_drawPages
  intro focus pools page left hstep
  simp [Page.items, hstep.headlines_ne_nil]

/-- Without a featured article, every article is there for the pages. -/
theorem pagePools_articles
    (h : (a.assemble enabled hosts now items).1.feed.featuredArticle = none) :
    (a.pagePools enabled hosts now items).articles.items = a.shuffled enabled hosts now items := by
  rw [assemble_feed, drawFeatured_eq] at h
  have hnot : ∀ it ∈ a.shuffled enabled hosts now items,
      (it.category == a.config.leadCategory) = false := by
    simpa using List.find?_eq_none.mp h
  rw [pagePools, drawFeatured_eq, Pool.draw_of_forall_not 1 hnot]

/-- No article is featured if and only if no enabled article has the lead category. -/
theorem featured_eq_none_iff (hsh : a.shuffler.Permutes) :
    (a.assemble enabled hosts now items).1.feed.featuredArticle = none ↔
      ∀ it ∈ enabled.filter items, it.isArticle = true → it.category ≠ a.config.leadCategory := by
  rw [← Option.not_isSome_iff_eq_none, a.featured_isSome_iff enabled hosts now items hsh]
  simp only [not_exists, not_and, ne_eq]

/-- Without a featured article, there is no page if and only if no enabled article has an image. -/
theorem pages_eq_nil_iff (hc : a.config.IsValid) (hsh : a.shuffler.Permutes)
    (hnone : (a.assemble enabled hosts now items).1.feed.featuredArticle = none) :
    (a.assemble enabled hosts now items).1.feed.pages = [] ↔
      ∀ it ∈ enabled.filter items, it.isArticle = true → it.hasImage = false := by
  have hroom : a.config.headlinesPerPage ≠ 0 := Nat.ne_of_gt hc.headlines_pos
  rw [assemble_feed, pageRun, drawPages_pages_eq_nil_iff hc.pages_pos, drawPage_eq_none_iff,
    a.pagePools_articles enabled hosts now items hnone, or_iff_right hroom]
  simp only [(a.shuffled_perm enabled hosts now items hsh).mem_iff, List.forall_mem_map,
    List.mem_filter, and_imp, Item.hasImage_prepare]

/-- There is neither a featured article nor a page if and only if no enabled article has an image or
the lead category. -/
theorem articles_absent_iff (hc : a.config.IsValid) (hsh : a.shuffler.Permutes) :
    ((a.assemble enabled hosts now items).1.feed.featuredArticle = none ∧
        (a.assemble enabled hosts now items).1.feed.pages = []) ↔
      ∀ it ∈ enabled.filter items, it.isArticle = true →
        it.hasImage = false ∧ it.category ≠ a.config.leadCategory := by
  have hfeatured := a.featured_eq_none_iff enabled hosts now items hsh
  have hpages := a.pages_eq_nil_iff enabled hosts now items hc hsh
  constructor
  · rintro ⟨hnone, hnil⟩ it hit harticle
    exact ⟨(hpages hnone).mp hnil it hit harticle, hfeatured.mp hnone it hit harticle⟩
  · intro h
    have hnone := hfeatured.mpr fun it hit harticle => (h it hit harticle).2
    exact ⟨hnone, (hpages hnone).mpr fun it hit harticle => (h it hit harticle).1⟩

/-- No deal is featured if and only if none is asked for or no enabled item is a deal. -/
theorem featuredDeals_eq_nil_iff :
    (a.assemble enabled hosts now items).1.feed.featuredDeals = [] ↔
      a.config.featuredDeals = 0 ∨ ∀ it ∈ enabled.filter items, it.isDeal = false := by
  have hdeals : (a.parts enabled hosts now items).deals = [] ↔
      ∀ it ∈ enabled.filter items, it.isDeal = false := by
    rw [← List.length_eq_zero_iff, (a.parts_deals_perm enabled hosts now items).length_eq,
      List.length_map, List.length_eq_zero_iff, List.filter_eq_nil_iff]
    simp only [Bool.not_eq_true]
  rw [assemble_feed, List.take_eq_nil_iff, hdeals]

end Assembler

/-- Exactly when a feed is empty. A feed that lists nothing has neither featured items nor a page,
so it is the same to list nothing and to be empty. Both are the case if and only if no article of an
enabled publisher has an image or the lead category and either no deal is to be featured or there is
none. -/
theorem feed_isEmpty_iff {σ : Type} (c : Config) {sh : Shuffler σ} (hsh : sh.Permutes) (s : σ)
    (enabled : Enablement) (hosts : List String) (now : Instant) (items : List Item) :
    let feed := ((Assembler.ofConfig c sh s).assemble enabled hosts now items).1.feed
    (feed.isEmpty = true ↔ feed.items = []) ∧
      (feed.items = [] ↔
        (∀ it ∈ items, enabled.get? it.publisherId = some true → it.isArticle = true →
          it.hasImage = false ∧ it.category ≠ c.sanitized.leadCategory) ∧
        (c.sanitized.featuredDeals = 0 ∨
          ∀ it ∈ items, enabled.get? it.publisherId = some true → it.isDeal = false)) := by
  intro feed
  let a := Assembler.ofConfig c sh s
  have hempty : feed.items = [] ↔ feed.isEmpty = true :=
    Feed.items_eq_nil_iff (a.items_ne_nil_of_mem_pages enabled hosts now items)
  have harticles := a.articles_absent_iff enabled hosts now items c.isValid_sanitized hsh
  have hdeals := a.featuredDeals_eq_nil_iff enabled hosts now items
  simp only [Enablement.mem_filter_iff, and_imp] at harticles hdeals
  refine ⟨hempty.symm, ?_⟩
  rw [hempty, Feed.isEmpty_iff, and_left_comm, and_comm]
  exact and_congr harticles hdeals

/-- An article that nothing asks for, a deal, and an article with an image that is hidden. -/
def plainSnapshot : List Item :=
  [(Item.article "plain" "").withPublisher "on" "On",
    (Item.deal "deal" "" "Books").withPublisher "on" "On",
    ((Item.article "hidden" "").withImage "image").withPublisher "off" "Off"]

theorem feed_isEmpty_iff_sample :
    let feed := fun (c : Config) =>
      ((Assembler.ofConfig c Shuffler.reversal ()).assemble sampleEnablement [] Instant.epoch
        plainSnapshot).1.feed
    Shuffler.reversal.Permutes ∧ (feed { featuredDeals := 0 }).isEmpty = true ∧
      (feed {}).items ≠ [] := by
  intro feed
  have hsh : Shuffler.reversal.Permutes := Shuffler.reversal_permutes
  obtain ⟨hempty, hnone⟩ := feed_isEmpty_iff { featuredDeals := 0 } hsh () sampleEnablement []
    Instant.epoch plainSnapshot
  obtain ⟨-, hsome⟩ := feed_isEmpty_iff {} hsh () sampleEnablement [] Instant.epoch plainSnapshot
  refine ⟨hsh, hempty.mpr (hnone.mpr (by decide)), ?_⟩
  exact fun hnil => absurd (hsome.mp hnil) (by decide)

end Newsfeed
