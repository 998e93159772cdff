import Newsfeed.Proofs.Conservation
import Newsfeed.Proofs.Settings

/-! # Completeness

A run stops where it finds no headline, and it looks for one among everything that is left. So
below the ceiling no article with an image is left behind, and an assembled feed shows each of them.
-/

namespace Newsfeed

/-- A run that ends below the ceiling leaves no article with an image. -/
theorem drawPages_left_not_hasImage (c : Config) (now : Instant) (ceiling : Nat)
    (rotation : Rotation) (pools : Pools) (hroom : 1 ≤ c.headlinesPerPage)
    (hbelow : (drawPages c now ceiling rotation pools).pages.length < ceiling) :
    ∀ it ∈ (drawPages c now ceiling rotation pools).left.articles.items, it.hasImage = false := by
  intro it hit
  have hnone := drawPages_stuck c now ceiling rotation pools hbelow
  exact Pool.not_test_of_taken_nil hroom hnone hit

/-- Every page shows an article with an image. -/
theorem exists_hasImage_of_mem_pages (c : Config) (now : Instant) (ceiling : Nat)
    (rotation : Rotation) (pools : Pools) :
    ∀ page ∈ (drawPages c now ceiling rotation pools).pages, ∃ it ∈ page.articles,
      it.hasImage = true := by
  apply forall_mem_drawPages
  intro focus pools page left h
  obtain ⟨it, hit⟩ := List.exists_mem_of_ne_nil _ h.headlines_ne_nil
  refine ⟨it, by simp [Page.articles, hit], ?_⟩
  rw [h.headlines_eq] at hit
  exact hasImage_of_mem_headlines id c now _ _ hit

/-- So many pages take at least so many images. -/
theorem length_le_countP_hasImage {pages : List Page}
    (h : ∀ page ∈ pages, ∃ it ∈ page.articles, it.hasImage = true) :
    pages.length ≤ (pages.flatMap Page.articles).countP Item.hasImage := by
  induction pages with
  | nil => simp
  | cons page pages ih =>
      have hpage : 0 < page.articles.countP Item.hasImage :=
        List.countP_pos_iff.mpr (h page List.mem_cons_self)
      have hrest := ih fun p hp => h p (List.mem_cons_of_mem page hp)
      rw [List.flatMap_cons, List.countP_append, List.length_cons]
      omega

namespace Assembler

variable {σ : Type} (a : Assembler σ) (enabled : Enablement) (hosts : List String)
  (now : Instant) (items : List Item)

/-- No deal of a feed is an article. -/
theorem not_isArticle_of_mem_deals {it : Item}
    (h : it ∈ (a.assemble enabled hosts now items).1.feed.deals) : it.isArticle = false := by
  have hmem := (deals_perm a enabled hosts now items).mem_iff.mp (List.mem_append_left _ h)
  obtain ⟨raw, hraw, rfl⟩ := List.mem_map.mp hmem
  have hdeal := (List.mem_filter.mp hraw).2
  rw [Item.isArticle_prepare]
  cases harticle : raw.isArticle
  · rfl
  · rw [Item.isDeal_eq_false raw harticle] at hdeal
    cases hdeal

/-- If no article with an image is left, the feed shows each of them once. -/
theorem image_articles_perm (hsh : a.shuffler.Permutes)
    (hleft : ∀ it ∈ (a.assemble enabled hosts now items).1.left.articles.items,
      it.hasImage = false) :
    ((a.assemble enabled hosts now items).1.feed.articles.filter Item.hasImage).Perm
      ((items.filter fun it => it.hasImage && it.isArticle && enabled.isOn it.publisherId).map
        (Item.prepare a.config hosts now)) := by
  have hall := (articles_perm a enabled hosts now items hsh).filter Item.hasImage
  have hnone : (a.assemble enabled hosts now items).1.left.articles.items.filter Item.hasImage =
      [] := List.filter_eq_nil_iff.mpr fun it hit => by simp [hleft it hit]
  have himage : Item.hasImage ∘ Item.prepare a.config hosts now = Item.hasImage :=
    funext fun it => it.hasImage_prepare a.config hosts now
  rw [List.filter_append, hnone, List.append_nil, List.filter_map, himage, Enablement.filter,
    List.filter_filter, List.filter_filter] at hall
  exact hall

/-- A feed has no more pages than the snapshot has articles with an image to show. -/
theorem pages_length_le (hsh : a.shuffler.Permutes) :
    (a.assemble enabled hosts now items).1.feed.pages.length ≤
      items.countP fun it => it.hasImage && it.isArticle && enabled.isOn it.publisherId := by
  have hpages : (a.assemble enabled hosts now items).1.feed.pages.length ≤
      ((a.assemble enabled hosts now items).1.feed.pages.flatMap Page.articles).countP
        Item.hasImage :=
    length_le_countP_hasImage (exists_hasImage_of_mem_pages _ _ _ _ _)
  have hcount := (articles_perm a enabled hosts now items hsh).countP_eq Item.hasImage
  have himage : Item.hasImage ∘ Item.prepare a.config hosts now = Item.hasImage :=
    funext fun it => it.hasImage_prepare a.config hosts now
  rw [List.countP_map, himage, Enablement.filter, List.countP_filter, List.countP_filter,
    Feed.articles, List.countP_append, List.countP_append] at hcount
  omega

end Assembler

/-- A run that ends below the ceiling leaves no article with an image. So a feed with fewer pages
than the ceiling shows each article with an image of an enabled publisher once: as the featured
article or in an article slot of one page, and never among the deals. -/
theorem image_articles_placed :
    (∀ (c : Config) (now : Instant) (ceiling : Nat) (rotation : Rotation) (pools : Pools),
      1 ≤ c.headlinesPerPage →
      (drawPages c now ceiling rotation pools).pages.length < ceiling →
      ∀ it ∈ (drawPages c now ceiling rotation pools).left.articles.items,
        it.hasImage = false) ∧
    (∀ {σ : Type} (c : Config) (sh : Shuffler σ) (s : σ) (enabled : Enablement)
      (hosts : List String) (now : Instant) (items : List Item), sh.Permutes →
      let feed := ((Assembler.ofConfig c sh s).assemble enabled hosts now items).1.feed
      feed.pages.length ≠ c.sanitized.maxPages →
      (feed.articles.filter Item.hasImage).Perm
          ((items.filter fun it => it.hasImage && it.isArticle && enabled.isOn it.publisherId).map
            (Item.prepare c.sanitized hosts now)) ∧
        ∀ it ∈ feed.deals, it.isArticle = false) := by
  refine ⟨drawPages_left_not_hasImage, ?_⟩
  intro σ c sh s enabled hosts now items hsh feed hpages
  have hbelow : feed.pages.length < c.sanitized.maxPages := by
    have hle : feed.pages.length ≤ c.sanitized.maxPages := drawPages_length_le _ _ _ _ _
    omega
  constructor
  · apply Assembler.image_articles_perm _ enabled hosts now items hsh
    exact drawPages_left_not_hasImage _ _ _ _ _ c.isValid_sanitized.headlines_pos hbelow
  · intro it hit
    exact Assembler.not_isArticle_of_mem_deals _ enabled hosts now items hit

/-- Two articles, the second without an image. -/
def samplePool : Pools := ⟨⟨[(Item.article "a" "").withImage "image", Item.article "b" ""]⟩, ⟨[]⟩⟩

theorem image_articles_placed_sample :
    let run := drawPages {} Instant.epoch 2 {} samplePool
    let a := Assembler.ofConfig {} Shuffler.reversal ()
    let feed := (a.assemble sampleEnablement [] Instant.epoch sampleSnapshot).1.feed
    (run.pages.length = 1 ∧ ∀ it ∈ run.left.articles.items, it.hasImage = false) ∧
      (feed.articles.filter Item.hasImage).length = 1 ∧
      ∀ it ∈ feed.deals, it.isArticle = false := by
  intro run a feed
  constructor
  · have hpages : run.pages.length = 1 := by decide
    have hbelow : run.pages.length < 2 := by omega
    exact ⟨hpages, image_articles_placed.1 {} Instant.epoch 2 {} samplePool (by decide) hbelow⟩
  · have hcount : (sampleSnapshot.filter fun it =>
        it.hasImage && it.isArticle && sampleEnablement.isOn it.publisherId).length = 1 := by decide
    have hpages : feed.pages.length ≤ 1 := by
      rw [← hcount, ← List.countP_eq_length_filter]
      exact a.pages_length_le sampleEnablement [] Instant.epoch sampleSnapshot
        Shuffler.reversal_permutes
    have hmax : (Config.sanitized {}).maxPages = 4000 := by decide
    have hbelow : feed.pages.length ≠ (Config.sanitized {}).maxPages := by omega
    obtain ⟨hperm, hdeals⟩ := image_articles_placed.2 {} Shuffler.reversal () sampleEnablement []
      Instant.epoch sampleSnapshot Shuffler.reversal_permutes hbelow
    refine ⟨?_, hdeals⟩
    rw [hperm.length_eq, List.length_map, hcount]

end Newsfeed
