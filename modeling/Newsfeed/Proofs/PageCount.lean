import Mathlib.Algebra.Order.Floor.Div
import Newsfeed.Proofs.Exhaustion

/-! # The number of pages

The images that are left to show measure a run: it goes on as long as there are any, and every page
takes at least its headlines and at most as many as it has room for. So the number of pages lies
between two quotients, and it is the larger one if no slot but the headlines takes an article.

* `IsPageStep.images_left_le`, `IsPageStep.images_le_left`: what one page does to the measure;
* `images_poolsAt_le`, `images_le_poolsAt`, `images_poolsAt_eq`: the measure at every page;
* `length_pages_le`, `le_length_pages`: the number of pages, from above and from below;
* `page_count`: the number of pages and of the headlines on each of them.
-/

namespace Newsfeed

/-- The number of articles with an image that are left to draw from. -/
def Pools.images (pools : Pools) : Nat := pools.articles.items.countP Item.hasImage

/-! ## One page -/

namespace IsPageStep

variable {c : Config} {now : Instant} {focus : Focus} {pools left : Pools} {page : Page}

/-- A page has its share of headlines, or all the images that there are. -/
theorem length_headlines (h : IsPageStep c now focus pools page left) :
    page.headlines.length = min c.headlinesPerPage pools.images := by
  have hdraw : page.headlines =
      (pools.articles.items.filter Item.hasImage).take c.headlinesPerPage := by
    rw [h.headlines_eq]
    exact Pool.draw_taken Item.hasImage c.headlinesPerPage pools.articles.items
  rw [hdraw, List.length_take, ← List.countP_eq_length_filter]
  rfl

/-- Every image goes to the page or is left. -/
theorem images_eq (h : IsPageStep c now focus pools page left) :
    page.articles.countP Item.hasImage + left.images = pools.images := by
  have hcount := h.articles_perm.countP_eq Item.hasImage
  rw [List.countP_append] at hcount
  exact hcount

/-- All headlines are images. -/
theorem countP_headlines (h : IsPageStep c now focus pools page left) :
    page.headlines.countP Item.hasImage = page.headlines.length := by
  rw [List.countP_eq_length]
  intro it hit
  rw [h.headlines_eq] at hit
  exact hasImage_of_mem_headlines id c now _ _ hit

theorem images_pos (h : IsPageStep c now focus pools page left) : 0 < pools.images := by
  have hpos := List.length_pos_iff.mpr h.headlines_ne_nil
  have hlength := h.length_headlines
  omega

/-- A page takes at least a full slot of headlines, if there are so many images. -/
theorem images_left_le (h : IsPageStep c now focus pools page left) :
    left.images ≤ pools.images - c.headlinesPerPage := by
  have hsplit := h.images_eq
  have hlength := h.length_headlines
  have htaken : page.headlines.length ≤ page.articles.countP Item.hasImage := by
    rw [← h.countP_headlines]
    simp only [Page.articles, List.countP_append]
    omega
  omega

/-- A page takes no more than it has room for. -/
theorem images_le_left (h : IsPageStep c now focus pools page left) :
    pools.images ≤
      left.images + (c.headlinesPerPage + 2 * c.groupSize + c.recentPerPage) := by
  have hsplit := h.images_eq
  have htaken : page.articles.countP Item.hasImage ≤ page.articles.length := List.countP_le_length
  have hroom : page.articles.length ≤
      c.headlinesPerPage + 2 * c.groupSize + c.recentPerPage := h.slots_fits.length_all_le
  omega

/-- A page that shows nothing but headlines takes no more than those. -/
theorem images_left_eq (h : IsPageStep c now focus pools page left)
    (honly : page.articles = page.headlines) :
    left.images = pools.images - c.headlinesPerPage := by
  have hsplit := h.images_eq
  have hlength := h.length_headlines
  rw [honly, h.countP_headlines] at hsplit
  omega

end IsPageStep

/-! ## Whole runs -/

section Run

variable (c : Config) (now : Instant) (ceiling : Nat) (rotation : Rotation) (pools : Pools)

/-- The pages before page `n` have taken at least their headlines. -/
theorem images_poolsAt_le {n : Nat}
    (hn : n ≤ (drawPages c now ceiling rotation pools).pages.length) :
    (poolsAt c now rotation pools n).images ≤ pools.images - n * c.headlinesPerPage := by
  apply poolsAt_induction c now ceiling rotation pools
    (fun n left => left.images ≤ pools.images - n * c.headlinesPerPage) (by simp) _ hn
  intro i page hi hle
  have hstep := (isPageStep_of_getElem? c now ceiling rotation pools hi).images_left_le
  rw [Nat.succ_mul]
  omega

/-- The pages before page `n` have taken no more than they have room for. -/
theorem images_le_poolsAt {n : Nat}
    (hn : n ≤ (drawPages c now ceiling rotation pools).pages.length) :
    pools.images ≤ (poolsAt c now rotation pools n).images +
      n * (c.headlinesPerPage + 2 * c.groupSize + c.recentPerPage) := by
  apply poolsAt_induction c now ceiling rotation pools
    (fun n left => pools.images ≤ left.images +
      n * (c.headlinesPerPage + 2 * c.groupSize + c.recentPerPage)) (by simp) _ hn
  intro i page hi hle
  have hstep := (isPageStep_of_getElem? c now ceiling rotation pools hi).images_le_left
  rw [Nat.succ_mul]
  omega

/-- If all pages show nothing but headlines, those before page `n` have taken exactly those. -/
theorem images_poolsAt_eq
    (honly : ∀ page ∈ (drawPages c now ceiling rotation pools).pages,
      page.articles = page.headlines) {n : Nat}
    (hn : n ≤ (drawPages c now ceiling rotation pools).pages.length) :
    (poolsAt c now rotation pools n).images = pools.images - n * c.headlinesPerPage := by
  apply poolsAt_induction c now ceiling rotation pools
    (fun n left => left.images = pools.images - n * c.headlinesPerPage) (by simp) _ hn
  intro i page hi heq
  have hstep := (isPageStep_of_getElem? c now ceiling rotation pools hi).images_left_eq
    (honly page (List.mem_of_getElem? hi))
  rw [Nat.succ_mul]
  omega

/-- Every page but the last is full of headlines. -/
theorem headlines_full {i : Nat} {page : Page}
    (hi : (drawPages c now ceiling rotation pools).pages[i]? = some page)
    (hlater : i + 1 < (drawPages c now ceiling rotation pools).pages.length) :
    page.headlines.length = c.headlinesPerPage := by
  have hstep := isPageStep_of_getElem? c now ceiling rotation pools hi
  have hnext := isPageStep_of_getElem? c now ceiling rotation pools
    (List.getElem?_eq_getElem hlater)
  -- the next page has found an image that this one has left
  have hleft := hstep.images_left_le
  have hpos := hnext.images_pos
  have hlength := hstep.length_headlines
  omega

/-- There are no more pages than the images can fill with headlines. -/
theorem length_pages_le (hroom : 1 ≤ c.headlinesPerPage) :
    (drawPages c now ceiling rotation pools).pages.length ≤
      pools.images ⌈/⌉ c.headlinesPerPage := by
  cases hn : (drawPages c now ceiling rotation pools).pages.length with
  | zero => exact Nat.zero_le _
  | succ n =>
      -- the last page has found an image that the pages before it have left
      have hlast : n < (drawPages c now ceiling rotation pools).pages.length := by omega
      have hpos := (isPageStep_of_getElem? c now ceiling rotation pools
        (List.getElem?_eq_getElem hlast)).images_pos
      have hle := images_poolsAt_le c now ceiling rotation pools hlast.le
      by_contra hfew
      have hcovered := (ceilDiv_le_iff_le_mul hroom).mp (Nat.le_of_lt_succ (not_le.mp hfew))
      rw [Nat.mul_comm] at hcovered
      omega

/-- A run that ends below the ceiling has shown all images. -/
theorem images_left_eq_zero (hroom : 1 ≤ c.headlinesPerPage)
    (hbelow : (drawPages c now ceiling rotation pools).pages.length < ceiling) :
    (drawPages c now ceiling rotation pools).left.images = 0 := by
  rw [Pools.images, List.countP_eq_zero]
  intro it hit
  simp [drawPages_left_not_hasImage c now ceiling rotation pools hroom hbelow it hit]

/-- Below the ceiling there are enough pages for all images, if a page takes no more than `most`. -/
theorem le_length_pages {most : Nat} (hmost : 0 < most)
    (hall : (drawPages c now ceiling rotation pools).pages.length < ceiling →
      pools.images ≤ (drawPages c now ceiling rotation pools).pages.length * most) :
    min ceiling (pools.images ⌈/⌉ most) ≤
      (drawPages c now ceiling rotation pools).pages.length := by
  rcases Nat.lt_or_ge (drawPages c now ceiling rotation pools).pages.length ceiling with hlt | hge
  · have hcovered := hall hlt
    rw [Nat.mul_comm] at hcovered
    exact (Nat.min_le_right _ _).trans ((ceilDiv_le_iff_le_mul hmost).mpr hcovered)
  · exact (Nat.min_le_left _ _).trans hge

/-- Without groups, and without an article that counts as recent, there are only headlines. -/
theorem articles_eq_headlines (hgroups : c.groupSize = 0)
    (hrecent : c.recentPerPage = 0 ∨
      ∀ it ∈ pools.articles.items, isWithin now c.recentWindow it = false) :
    ∀ page ∈ (drawPages c now ceiling rotation pools).pages, page.articles = page.headlines := by
  intro page hpage
  have hfits : page.slots.Fits c :=
    forall_mem_drawPages c now ceiling rotation pools (fun _ _ _ _ h => h.slots_fits) page hpage
  have hcategory : page.categoryItems = [] := by
    have hle : page.categoryItems.length ≤ c.groupSize := hfits.category_le
    exact List.eq_nil_of_length_eq_zero (by omega)
  have hpublisher : page.publisherItems = [] := by
    have hle : page.publisherItems.length ≤ c.groupSize := hfits.publisher_le
    exact List.eq_nil_of_length_eq_zero (by omega)
  have hnone : page.recent = [] := by
    rcases hrecent with hzero | hold
    · have hle : page.recent.length ≤ c.recentPerPage := hfits.recent_le
      exact List.eq_nil_of_length_eq_zero (by omega)
    · -- a recent article would be one of the pool that the run starts from
      apply List.eq_nil_iff_forall_not_mem.mpr
      intro it hit
      have hwithin := isWithin_of_mem_pages c now ceiling rotation pools page hpage it hit
      have harticle : it ∈ page.articles := List.mem_append_right _ hit
      have hpool : it ∈ pools.articles.items :=
        (drawPages_articles_perm c now ceiling rotation pools).mem_iff.mp
          (List.mem_append_left _ (List.mem_flatMap_of_mem hpage harticle))
      rw [hold it hpool] at hwithin
      cases hwithin
  simp [Page.articles, hcategory, hpublisher, hnone]

end Run

/-- The law of page counts. Every page but the last is full of headlines. There are at most as many
pages as the images fill with headlines alone, and below the ceiling at least as many as they fill
if every slot of every page takes an image. If no slot but the headlines takes an article, the
first of these bounds is the number of pages, and page `p` shows what `p` full pages have left. -/
theorem page_count (c : Config) (now : Instant) (ceiling : Nat) (rotation : Rotation)
    (pools : Pools) (hroom : 1 ≤ c.headlinesPerPage) :
    let h := c.headlinesPerPage
    let images := pools.articles.items.countP Item.hasImage
    let pages := (drawPages c now ceiling rotation pools).pages
    (∀ p page, pages[p]? = some page → p + 1 < pages.length → page.headlines.length = h) ∧
    pages.length ≤ min ceiling (images ⌈/⌉ h) ∧
    min ceiling (images ⌈/⌉ (h + 2 * c.groupSize + c.recentPerPage)) ≤ pages.length ∧
    (c.groupSize = 0 →
      (c.recentPerPage = 0 ∨
        ∀ it ∈ pools.articles.items, isWithin now c.recentWindow it = false) →
      pages.length = min ceiling (images ⌈/⌉ h) ∧
        ∀ p page, pages[p]? = some page → page.headlines.length = min h (images - p * h)) := by
  intro h images pages
  have hupper : pages.length ≤ min ceiling (images ⌈/⌉ h) :=
    le_min (drawPages_length_le c now ceiling rotation pools)
      (length_pages_le c now ceiling rotation pools hroom)
  have hend := poolsAt_length c now ceiling rotation pools
  refine ⟨?_, hupper, ?_, ?_⟩
  · intro p page hp hlater
    exact headlines_full c now ceiling rotation pools hp hlater
  · apply le_length_pages c now ceiling rotation pools (by omega)
    intro hbelow
    have hnone := images_left_eq_zero c now ceiling rotation pools hroom hbelow
    have hall := images_le_poolsAt c now ceiling rotation pools (Nat.le_refl pages.length)
    rw [hend, hnone, Nat.zero_add] at hall
    exact hall
  · intro hgroups hrecent
    have honly := articles_eq_headlines c now ceiling rotation pools hgroups hrecent
    constructor
    · apply le_antisymm hupper
      apply le_length_pages c now ceiling rotation pools hroom
      intro hbelow
      have hnone := images_left_eq_zero c now ceiling rotation pools hroom hbelow
      have hall := images_poolsAt_eq c now ceiling rotation pools honly (Nat.le_refl pages.length)
      rw [hend, hnone] at hall
      exact Nat.sub_eq_zero_iff_le.mp hall.symm
    · intro p page hp
      have hlt : p < pages.length := (List.getElem?_eq_some_iff.mp hp).1
      rw [(isPageStep_of_getElem? c now ceiling rotation pools hp).length_headlines,
        images_poolsAt_eq c now ceiling rotation pools honly hlt.le]
      rfl

/-- Five articles with an image and without a publish time. -/
def fiveImages : Pools := ⟨⟨List.replicate 5 ((Item.article "a" "").withImage "image")⟩, {}⟩

theorem page_count_sample :
    let c : Config := { headlinesPerPage := 2, groupSize := 0 }
    let pages := (drawPages c Instant.epoch 4 {} fiveImages).pages
    1 ≤ c.headlinesPerPage ∧ c.groupSize = 0 ∧
      (∀ it ∈ fiveImages.articles.items, isWithin Instant.epoch c.recentWindow it = false) ∧
      pages.length = 3 ∧ (∃ page, pages[1]? = some page ∧ page.headlines.length = 2) ∧
      ∃ page, pages[2]? = some page ∧ page.headlines.length = 1 := by
  intro c pages
  have hold : ∀ it ∈ fiveImages.articles.items,
      isWithin Instant.epoch c.recentWindow it = false := by decide
  have himages : fiveImages.articles.items.countP Item.hasImage = 5 := by decide
  obtain ⟨hfull, -, -, hexact⟩ := page_count c Instant.epoch 4 {} fiveImages (by decide)
  obtain ⟨hlength, hheadlines⟩ : pages.length = min 4 (5 ⌈/⌉ 2) ∧
      ∀ p page, pages[p]? = some page → page.headlines.length = min 2 (5 - p * 2) := by
    rw [← himages]
    exact hexact rfl (Or.inr hold)
  have hthree : pages.length = 3 := by
    rw [hlength, Nat.ceilDiv_eq_add_pred_div]
    rfl
  refine ⟨by decide, rfl, hold, hthree, ?_, ?_⟩
  · have hpage : pages[1]? = some pages[1] := List.getElem?_eq_getElem (by omega)
    exact ⟨pages[1], hpage, hfull 1 _ hpage (show 1 + 1 < pages.length by omega)⟩
  · have hpage : pages[2]? = some pages[2] := List.getElem?_eq_getElem (by omega)
    exact ⟨pages[2], hpage, hheadlines 2 _ hpage⟩

end Newsfeed
