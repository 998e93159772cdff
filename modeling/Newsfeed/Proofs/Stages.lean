import Mathlib.Data.List.Perm.Basic
import Newsfeed.Assembly
import Newsfeed.Proofs.PageStep

/-! # The stages of an assembly

An assembly is taken apart here into its stages, each with the fact that it neither loses nor
invents an item. The two kinds of items that a feed places go separate ways:

* `Assembler.articles_perm`: the articles of the feed and those left over are the articles of the
  snapshot, as the feed shows them;
* `Assembler.deals_perm`: the same for the deals;
* `Feed.items_perm`: what a feed lists is its articles and its deals.
-/

namespace Newsfeed

/-! ## What a feed shows of an item -/

namespace Item

/-- The item as the feed shows it: with its points and its display fields. -/
def prepare (c : Config) (hosts : List String) (now : Instant) (it : Item) : Item :=
  (it.weigh c hosts).normalize c now

variable (c : Config) (hosts : List String) (now : Instant) (it : Item)

@[simp] theorem kind_normalize : (it.normalize c now).kind = it.kind := by
  unfold normalize
  split <;> rfl

@[simp] theorem paddedImage_normalize : (it.normalize c now).paddedImage = it.paddedImage := by
  unfold normalize
  split <;> rfl

@[simp] theorem category_normalize : (it.normalize c now).category = it.category := by
  unfold normalize
  split <;> rfl

@[simp] theorem publisherId_normalize : (it.normalize c now).publisherId = it.publisherId := by
  unfold normalize
  split <;> rfl

@[simp] theorem points_normalize : (it.normalize c now).points = it.points := by
  unfold normalize
  split <;> rfl

@[simp] theorem score_normalize : (it.normalize c now).score = it.score := by
  unfold normalize
  split <;> rfl

@[simp] theorem url_normalize : (it.normalize c now).url = it.url := by
  unfold normalize
  split <;> rfl

@[simp] theorem isArticle_prepare : (it.prepare c hosts now).isArticle = it.isArticle := by
  simp [prepare, isArticle, weigh]

@[simp] theorem category_prepare : (it.prepare c hosts now).category = it.category := by
  simp [prepare, weigh]

@[simp] theorem hasImage_prepare : (it.prepare c hosts now).hasImage = it.hasImage := by
  simp [prepare, hasImage, weigh]

@[simp] theorem isDeal_prepare : (it.prepare c hosts now).isDeal = it.isDeal := by
  simp [prepare, isDeal, weigh]

@[simp] theorem publisherId_prepare :
    (it.prepare c hosts now).publisherId = it.publisherId := by
  simp [prepare, weigh]

@[simp] theorem score_prepare : (it.prepare c hosts now).score = it.score := by
  simp [prepare, weigh]

@[simp] theorem url_prepare : (it.prepare c hosts now).url = it.url := by
  simp [prepare, weigh]

@[simp] theorem points_prepare :
    (it.prepare c hosts now).points = it.weightedScore c hosts := by
  simp [prepare, weigh]

theorem isDeal_eq_false (h : it.isArticle = true) : it.isDeal = false := by
  cases hk : it.kind <;> simp [isArticle, isDeal, hk] at h ⊢

end Item

/-- The items that a feed places are its articles and its deals. -/
theorem filter_isPlaceable_perm (items : List Item) :
    (items.filter Item.isArticle ++ items.filter Item.isDeal).Perm
      (items.filter Item.isPlaceable) := by
  have hsplit := List.filter_append_perm Item.isArticle (items.filter Item.isPlaceable)
  rw [List.filter_filter, List.filter_filter] at hsplit
  have harticle : (fun it : Item => it.isArticle && it.isPlaceable) = Item.isArticle := by
    funext it
    cases h : it.isArticle <;> simp [Item.isPlaceable, h]
  have hdeal : (fun it : Item => !it.isArticle && it.isPlaceable) = Item.isDeal := by
    funext it
    cases h : it.isArticle
    · simp [Item.isPlaceable, h]
    · simp [Item.isDeal_eq_false it h]
  rw [harticle, hdeal] at hsplit
  exact hsplit

/-! ## What a feed lists -/

theorem Page.items_perm (p : Page) : p.items.Perm (p.articles ++ p.deals) := by
  have hdeals : (p.deals ++ (p.publisherItems ++ p.recent)).Perm
      (p.publisherItems ++ p.recent ++ p.deals) := List.perm_append_comm
  simp only [Page.items, Page.articles, List.append_assoc] at hdeals ⊢
  exact (hdeals.append_left _).append_left _

namespace Feed

/-- The articles of a feed: the featured one, then page after page. -/
def articles (f : Feed) : List Item := f.featuredArticle.toList ++ f.pages.flatMap Page.articles

/-- The deals of a feed: the featured ones, then page after page. -/
def deals (f : Feed) : List Item := f.featuredDeals ++ f.pages.flatMap Page.deals

theorem items_perm (f : Feed) : f.items.Perm (f.articles ++ f.deals) := by
  have hpages : (f.pages.flatMap Page.items).Perm
      (f.pages.flatMap Page.articles ++ f.pages.flatMap Page.deals) :=
    (List.Perm.flatMap_left f.pages fun p _ => p.items_perm).trans
      (List.flatMap_append_perm f.pages Page.articles Page.deals).symm
  have hcomm : (f.featuredDeals ++ f.pages.flatMap Page.articles).Perm
      (f.pages.flatMap Page.articles ++ f.featuredDeals) := List.perm_append_comm
  simp only [items, articles, deals, List.append_assoc]
  refine List.Perm.append_left _ ((hpages.append_left _).trans ?_)
  simpa only [List.append_assoc] using hcomm.append_right (f.pages.flatMap Page.deals)

end Feed

/-! ## The stages -/

theorem partition_articles (c : Config) (now : Instant) (items : List Item) :
    (partition c now items).articles =
      (items.filter Item.isArticle).map (Item.normalize c now) := by
  simp only [partition, List.filter_map]
  congr 2
  funext it
  simp [Item.isArticle]

theorem partition_deals (c : Config) (now : Instant) (items : List Item) :
    (partition c now items).deals = (items.filter Item.isDeal).map (Item.normalize c now) := by
  simp only [partition, List.filter_map]
  congr 2
  funext it
  simp [Item.isDeal]

/-- The featured article is the first one of the lead category. -/
theorem drawFeatured_eq (c : Config) (articles : Pool Item) :
    drawFeatured c articles =
      (articles.items.find? (·.category == c.leadCategory),
        ⟨(Pool.draw (·.category == c.leadCategory) 1 articles.items).2⟩) := by
  simp only [drawFeatured, Pool.take, Pool.draw_one, Option.head?_toList]

/-- The pages are the run of the rotation, from what the featured article and deals leave. -/
theorem arrange_pages (c : Config) (now : Instant) {articles deals : List Item}
    {rotation : Rotation} (h : Rotation.ofItems c.leadCategory articles deals = rotation) :
    (arrange c now articles deals).1.pages = (drawPages c now c.maxPages rotation
      ⟨(drawFeatured c ⟨articles⟩).2, ⟨deals.drop c.featuredDeals⟩⟩).pages := by
  rw [← h]
  rfl

theorem drawFeatured_perm (c : Config) (articles : Pool Item) :
    ((drawFeatured c articles).1.toList ++ (drawFeatured c articles).2.items).Perm
      articles.items := by
  rw [drawFeatured_eq, ← Pool.draw_one]
  exact Pool.draw_perm _ _ _

namespace Assembler

variable {σ : Type} (a : Assembler σ) (enabled : Enablement) (hosts : List String)
  (now : Instant) (items : List Item)

/-- The ranked items of enabled publishers, by kind. -/
def parts : Partition := partition a.config now (rank a.config hosts (enabled.filter items))

/-- The articles in their final order. -/
def shuffled : List Item :=
  (shuffleTop a.shuffler a.config.shuffleTop a.state (a.parts enabled hosts now items).articles).1

/-- The pools that the pages are drawn from: what is left once the featured article and the
featured deals are taken. -/
def pagePools : Pools :=
  ⟨(drawFeatured a.config ⟨a.shuffled enabled hosts now items⟩).2,
    (Pool.takeFront ⟨(a.parts enabled hosts now items).deals⟩ a.config.featuredDeals).2⟩

/-- The run that draws the pages. -/
def pageRun : PageRun :=
  drawPages a.config now a.config.maxPages
    (Rotation.ofItems a.config.leadCategory (a.shuffled enabled hosts now items)
      (a.parts enabled hosts now items).deals)
    (a.pagePools enabled hosts now items)

theorem assemble_feed :
    (a.assemble enabled hosts now items).1.feed =
      { featuredArticle := (drawFeatured a.config ⟨a.shuffled enabled hosts now items⟩).1
        featuredDeals := (a.parts enabled hosts now items).deals.take a.config.featuredDeals
        pages := (a.pageRun enabled hosts now items).pages } :=
  rfl

theorem assemble_left :
    (a.assemble enabled hosts now items).1.left = (a.pageRun enabled hosts now items).left :=
  rfl

/-- What is prepared of one kind is what the snapshot has of it, prepared. -/
theorem rank_filter_perm {kind : Item → Bool}
    (hkind : ∀ it : Item, kind (it.weigh a.config hosts) = kind it) :
    (((rank a.config hosts (enabled.filter items)).filter kind).map
        (Item.normalize a.config now)).Perm
      (((enabled.filter items).filter kind).map (Item.prepare a.config hosts now)) := by
  have hrank := ((rank_perm a.config hosts (enabled.filter items)).filter kind).map
    (Item.normalize a.config now)
  have hweigh : kind ∘ Item.weigh a.config hosts = kind := funext hkind
  rw [List.filter_map, hweigh, List.map_map] at hrank
  exact hrank

/-- The ranked articles are those of the snapshot. -/
theorem parts_articles_perm :
    (a.parts enabled hosts now items).articles.Perm
      (((enabled.filter items).filter Item.isArticle).map (Item.prepare a.config hosts now)) := by
  rw [parts, partition_articles]
  exact rank_filter_perm a enabled hosts now items fun _ => rfl

/-- The articles in their final order are those of the snapshot. -/
theorem shuffled_perm (hsh : a.shuffler.Permutes) :
    (a.shuffled enabled hosts now items).Perm
      (((enabled.filter items).filter Item.isArticle).map (Item.prepare a.config hosts now)) :=
  (shuffleTop_perm hsh _ _ _).trans (parts_articles_perm a enabled hosts now items)

/-- The ranked deals are those of the snapshot. -/
theorem parts_deals_perm :
    (a.parts enabled hosts now items).deals.Perm
      (((enabled.filter items).filter Item.isDeal).map (Item.prepare a.config hosts now)) := by
  rw [parts, partition_deals]
  exact rank_filter_perm a enabled hosts now items fun _ => rfl

/-- There is a featured article if and only if an enabled article has the lead category. -/
theorem featured_isSome_iff (hsh : a.shuffler.Permutes) :
    (a.assemble enabled hosts now items).1.feed.featuredArticle.isSome = true ↔
      ∃ it ∈ enabled.filter items,
        it.isArticle = true ∧ it.category = a.config.leadCategory := by
  have hperm := shuffled_perm a enabled hosts now items hsh
  rw [assemble_feed, drawFeatured_eq, List.find?_isSome]
  constructor
  · rintro ⟨x, hx, hlead⟩
    obtain ⟨it, hit, rfl⟩ := List.mem_map.mp (hperm.mem_iff.mp hx)
    obtain ⟨hkept, harticle⟩ := List.mem_filter.mp hit
    exact ⟨it, hkept, harticle, by simpa using hlead⟩
  · rintro ⟨it, hkept, harticle, hlead⟩
    have hit := List.mem_filter.mpr ⟨hkept, harticle⟩
    exact ⟨it.prepare a.config hosts now, hperm.mem_iff.mpr (List.mem_map_of_mem hit),
      by simpa using hlead⟩

/-- The articles of the feed and those left over are the articles in their final order, whatever the
shuffler has made of it. -/
theorem articles_perm_shuffled :
    ((a.assemble enabled hosts now items).1.feed.articles ++
      (a.assemble enabled hosts now items).1.left.articles.items).Perm
      (a.shuffled enabled hosts now items) := by
  rw [assemble_feed, assemble_left, Feed.articles, List.append_assoc]
  have hpages : ((a.pageRun enabled hosts now items).pages.flatMap Page.articles ++
      (a.pageRun enabled hosts now items).left.articles.items).Perm
      (drawFeatured a.config ⟨a.shuffled enabled hosts now items⟩).2.items :=
    drawPages_articles_perm _ _ _ _ _
  have hfeatured := drawFeatured_perm a.config ⟨a.shuffled enabled hosts now items⟩
  exact (hpages.append_left _).trans hfeatured

/-- The articles of the feed and those left over are the articles of the snapshot. -/
theorem articles_perm (hsh : a.shuffler.Permutes) :
    ((a.assemble enabled hosts now items).1.feed.articles ++
      (a.assemble enabled hosts now items).1.left.articles.items).Perm
      (((enabled.filter items).filter Item.isArticle).map (Item.prepare a.config hosts now)) :=
  (articles_perm_shuffled a enabled hosts now items).trans
    (shuffled_perm a enabled hosts now items hsh)

/-- The deals of the feed and those left over are the deals of the snapshot. -/
theorem deals_perm :
    ((a.assemble enabled hosts now items).1.feed.deals ++
      (a.assemble enabled hosts now items).1.left.deals.items).Perm
      (((enabled.filter items).filter Item.isDeal).map (Item.prepare a.config hosts now)) := by
  rw [assemble_feed, assemble_left, Feed.deals, List.append_assoc]
  have hpages : ((a.pageRun enabled hosts now items).pages.flatMap Page.deals ++
      (a.pageRun enabled hosts now items).left.deals.items).Perm
      ((a.parts enabled hosts now items).deals.drop a.config.featuredDeals) :=
    drawPages_deals_perm _ _ _ _ _
  refine (hpages.append_left _).trans ?_
  rw [List.take_append_drop]
  exact parts_deals_perm a enabled hosts now items

end Assembler

end Newsfeed
