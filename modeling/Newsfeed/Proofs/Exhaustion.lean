import Newsfeed.Proofs.Completeness

/-! # Slots that run short

A draw that stays below its limit leaves nothing that it asks for, and no later step of a run puts
anything back. So a slot that is short on one page says something about all pages after it.

* `IsPageStep.image_free`, `category_free`, `publisher_free`, `named_free`, `recent_free`: what the
  short slots of one page leave;
* `drawPages_after_perm`: everything after a page comes out of what it leaves;
* `short_slots_exhaust`: what the short slots of a page say about the rest of its run.
-/

namespace Newsfeed

namespace IsPageStep

variable {c : Config} {now : Instant} {focus : Focus} {pools left : Pools} {page : Page}

/-- Short headlines leave no image for the other slots or a later page. -/
theorem image_free (h : IsPageStep c now focus pools page left)
    (hshort : page.headlines.length < c.headlinesPerPage) :
    ∀ it ∈ page.categoryItems ++ page.publisherItems ++ page.recent ++ left.articles.items,
      it.hasImage = false := by
  intro it hit
  rw [h.headlines_eq] at hshort
  rw [h.categoryItems_eq, h.publisherItems_eq, h.recent_eq, h.articles_left] at hit
  exact not_hasImage_of_short id c now _ _ hshort hit

/-- A short category group leaves no article of the category for the slots after it or a later
page. -/
theorem category_free (h : IsPageStep c now focus pools page left) {k : String}
    (hfocus : focus.category = some k) (hshort : page.categoryItems.length < c.groupSize) :
    ∀ it ∈ page.publisherItems ++ page.recent ++ left.articles.items, it.category ≠ k := by
  intro it hit hk
  rw [h.categoryItems_eq] at hshort
  rw [h.publisherItems_eq, h.recent_eq, h.articles_left] at hit
  apply ne_focus_of_short id c now _ _ hshort hit
  rw [hfocus, ← hk]
  rfl

/-- A short publisher group leaves no article of the publisher for the recent articles or a later
page. -/
theorem publisher_free (h : IsPageStep c now focus pools page left) {g : PublisherGroup}
    (hg : page.publisher = some g) (hshort : g.items.length < c.groupSize) :
    ∀ it ∈ page.recent ++ left.articles.items, it.publisherId ≠ g.publisherId := by
  intro it hit
  obtain ⟨hitems, anchor, hanchor, hid, -⟩ := h.publisher_eq_some hg
  have hmem : anchor ∈ g.items := List.mem_of_head? hanchor
  rw [hitems, h.publisherItems_eq] at hshort hmem
  rw [h.recent_eq, h.articles_left] at hit
  rw [← hid]
  exact ne_publisher_of_short id c now _ _ hshort hmem hit

/-- A missing publisher group that there was room for leaves no article that names a publisher. -/
theorem named_free (h : IsPageStep c now focus pools page left) (hroom : 0 < c.groupSize)
    (hnone : page.publisher = none) :
    ∀ it ∈ page.recent ++ left.articles.items, it.publisherId = "" := by
  intro it hit
  have hnil : page.publisherItems = [] := by rw [Page.publisherItems, hnone, Option.elim]
  rw [h.publisherItems_eq] at hnil
  rw [h.recent_eq, h.articles_left] at hit
  have hnot := not_hasPublisher_of_no_group id c now _ _ hroom hnil hit
  simpa [Item.hasPublisher] using hnot

/-- Short recent articles leave no article within the window for a later page. -/
theorem recent_free (h : IsPageStep c now focus pools page left)
    (hshort : page.recent.length < c.recentPerPage) :
    ∀ it ∈ left.articles.items, isWithin now c.recentWindow it = false := by
  intro it hit
  rw [h.recent_eq] at hshort
  rw [h.articles_left] at hit
  exact not_isWithin_of_short id c now _ _ hshort hit

/-- A page that is short of deals leaves none for a later page. -/
theorem deals_free (h : IsPageStep c now focus pools page left)
    (hshort : page.deals.length < c.dealsPerPage) : left.deals.items = [] := by
  rw [h.deals] at hshort
  rw [h.deals_left]
  exact drawDeals_short c focus.deals pools.deals hshort

end IsPageStep

section Run

variable (c : Config) (now : Instant) (ceiling : Nat) (rotation : Rotation) (pools : Pools)

/-- The recent articles of every page are within the window. -/
theorem isWithin_of_mem_pages :
    ∀ page ∈ (drawPages c now ceiling rotation pools).pages, ∀ it ∈ page.recent,
      isWithin now c.recentWindow it = true := by
  apply forall_mem_drawPages
  intro focus pools page left hstep it hit
  rw [hstep.recent_eq] at hit
  exact isWithin_of_mem_recent id c now _ _ hit

/-- All that the later pages show and the run leaves comes out of what a page leaves. -/
theorem drawPages_after_perm {before after : List Page} {page : Page}
    (h : (drawPages c now ceiling rotation pools).pages = before ++ page :: after) :
    ∃ first next, IsPageStep c now (rotation.focusAt before.length) first page next ∧
      (after.flatMap Page.articles ++
        (drawPages c now ceiling rotation pools).left.articles.items).Perm next.articles.items ∧
      (after.flatMap Page.deals ++
        (drawPages c now ceiling rotation pools).left.deals.items).Perm next.deals.items := by
  obtain ⟨next, hstep, hpages, hleft⟩ := drawPages_split c now ceiling rotation pools h
  rw [← hpages, ← hleft]
  exact ⟨_, next, hstep, drawPages_articles_perm _ _ _ _ _, drawPages_deals_perm _ _ _ _ _⟩

/-- Without an image among what they show, there are no later pages. -/
theorem eq_nil_of_not_hasImage {after : List Page}
    (hafter : ∀ p ∈ after, p ∈ (drawPages c now ceiling rotation pools).pages)
    (hnone : ∀ it ∈ after.flatMap Page.articles, it.hasImage = false) : after = [] := by
  apply List.eq_nil_iff_forall_not_mem.mpr
  intro p hp
  obtain ⟨it, hit, himage⟩ :=
    exists_hasImage_of_mem_pages c now ceiling rotation pools p (hafter p hp)
  rw [hnone it (List.mem_flatMap_of_mem hp hit)] at himage
  cases himage

/-- Without an article within the window among what they show, later pages have no recent
articles. -/
theorem recent_eq_nil_of_not_isWithin {after : List Page}
    (hafter : ∀ p ∈ after, p ∈ (drawPages c now ceiling rotation pools).pages)
    (hnone : ∀ it ∈ after.flatMap Page.articles, isWithin now c.recentWindow it = false) :
    ∀ p ∈ after, p.recent = [] := by
  intro p hp
  apply List.eq_nil_iff_forall_not_mem.mpr
  intro it hit
  have hwithin := isWithin_of_mem_pages c now ceiling rotation pools p (hafter p hp) it hit
  have harticle : it ∈ p.articles := List.mem_append_right _ hit
  rw [hnone it (List.mem_flatMap_of_mem hp harticle)] at hwithin
  cases hwithin

/-- A slot of a page that is not full has met all that there is of its kind. What can no longer be
found after it, on the page itself, on a later page or among what is left:

* headlines: no image, and the page is the last one;
* category group: no article of the category in focus;
* publisher group: no article of its publisher, and no article that names one if there is no group;
* recent articles: no article within the window, and later pages show no recent articles;
* deals: no deal. -/
theorem short_slots_exhaust {before after : List Page} {page : Page}
    (h : (drawPages c now ceiling rotation pools).pages = before ++ page :: after) :
    let left := (drawPages c now ceiling rotation pools).left
    let later := after.flatMap Page.articles ++ left.articles.items
    (page.headlines.length < c.headlinesPerPage →
      after = [] ∧
        ∀ it ∈ page.categoryItems ++ page.publisherItems ++ page.recent ++ later,
          it.hasImage = false) ∧
    (∀ k, (rotation.focusAt before.length).category = some k →
      page.categoryItems.length < c.groupSize →
      ∀ it ∈ page.publisherItems ++ page.recent ++ later, it.category ≠ k) ∧
    (∀ g, page.publisher = some g → g.items.length < c.groupSize →
      ∀ it ∈ page.recent ++ later, it.publisherId ≠ g.publisherId) ∧
    (0 < c.groupSize → page.publisher = none →
      ∀ it ∈ page.recent ++ later, it.publisherId = "") ∧
    (page.recent.length < c.recentPerPage →
      (∀ p ∈ after, p.recent = []) ∧ ∀ it ∈ later, isWithin now c.recentWindow it = false) ∧
    (page.deals.length < c.dealsPerPage →
      (∀ p ∈ after, p.deals = []) ∧ left.deals.items = []) := by
  intro left later
  obtain ⟨first, next, hstep, harticles, hdeals⟩ :=
    drawPages_after_perm c now ceiling rotation pools h
  have hafter : ∀ p ∈ after, p ∈ (drawPages c now ceiling rotation pools).pages := by
    intro p hp
    rw [h]
    simp [hp]
  refine ⟨?_, ?_, ?_, ?_, ?_, ?_⟩
  · -- headlines
    intro hshort
    have hnone : ∀ it ∈ page.categoryItems ++ page.publisherItems ++ page.recent ++ later,
        it.hasImage = false := by
      intro it hit
      exact hstep.image_free hshort it ((harticles.append_left _).mem_iff.mp hit)
    refine ⟨?_, hnone⟩
    apply eq_nil_of_not_hasImage c now ceiling rotation pools hafter
    intro it hit
    exact hnone it (List.mem_append_right _ (List.mem_append_left _ hit))
  · -- category group
    intro k hfocus hshort it hit
    exact hstep.category_free hfocus hshort it ((harticles.append_left _).mem_iff.mp hit)
  · -- publisher group
    intro g hg hshort it hit
    exact hstep.publisher_free hg hshort it ((harticles.append_left _).mem_iff.mp hit)
  · -- no publisher group
    intro hroom hnone it hit
    exact hstep.named_free hroom hnone it ((harticles.append_left _).mem_iff.mp hit)
  · -- recent articles
    intro hshort
    have hnone : ∀ it ∈ later, isWithin now c.recentWindow it = false := by
      intro it hit
      exact hstep.recent_free hshort it (harticles.mem_iff.mp hit)
    refine ⟨?_, hnone⟩
    apply recent_eq_nil_of_not_isWithin c now ceiling rotation pools hafter
    intro it hit
    exact hnone it (List.mem_append_left _ hit)
  · -- deals
    intro hshort
    rw [hstep.deals_free hshort] at hdeals
    obtain ⟨hpages, hleft⟩ := List.append_eq_nil_iff.mp hdeals.eq_nil
    exact ⟨List.flatMap_eq_nil_iff.mp hpages, hleft⟩

end Run

/-- A headline, an article for each group, an article that no slot asks for, and a deal. -/
def shortPools : Pools :=
  ⟨⟨[(Item.article "a" "").withImage "image", (Item.article "b" "").withCategory "news",
    (Item.article "c" "").withPublisher "p" "P", Item.article "d" ""]⟩, ⟨[Item.deal "e" "" ""]⟩⟩

theorem short_slots_exhaust_sample :
    let run := drawPages {} Instant.epoch 2 ⟨["news"], []⟩ shortPools
    run.left.articles.items.length = 1 ∧ run.left.deals.items = [] ∧
      ∀ it ∈ run.left.articles.items, it.hasImage = false ∧ it.category ≠ "news" ∧
        it.publisherId ≠ "p" ∧ isWithin Instant.epoch (Config.recentWindow {}) it = false := by
  intro run
  let group : PublisherGroup := ⟨"p", "P", [(Item.article "c" "").withPublisher "p" "P"]⟩
  let page : Page :=
    { headlines := [(Item.article "a" "").withImage "image"]
      recent := []
      deals := [Item.deal "e" "" ""]
      category := some ⟨"news", [(Item.article "b" "").withCategory "news"]⟩
      publisher := some group }
  have hpages : run.pages = [] ++ page :: [] := by decide
  obtain ⟨hheadlines, hcategory, hpublisher, -, hrecent, hdeals⟩ :=
    short_slots_exhaust {} Instant.epoch 2 ⟨["news"], []⟩ shortPools hpages
  refine ⟨by decide, (hdeals (by decide)).2, ?_⟩
  intro it hit
  refine ⟨?_, ?_, ?_, ?_⟩
  · exact (hheadlines (by decide)).2 it (List.mem_append_right _ hit)
  · exact hcategory "news" (by decide) (by decide) it (List.mem_append_right _ hit)
  · exact hpublisher group (by decide) (by decide) it (List.mem_append_right _ hit)
  · exact (hrecent (by decide)).2 it hit

end Newsfeed
