import Newsfeed.Proofs.HistorySignal
import Newsfeed.Proofs.Renormalization
import Newsfeed.Proofs.Swaps

/-! # The zone suffix

The zone suffix is put behind a publish time that has been read before, and nothing asks for the text
of a publish time after that. So an assembly with a zone suffix is the assembly without one, with the
suffix put behind every publish time of its feed.

* `Item.KeepsPlace`: a map of items that changes nothing a feed places them by;
* `Page.map`, `Feed.map`: pages and feeds with every item changed in its place;
* `pageStep_map`, `arrange_map`: drawing from changed items is changing what is drawn;
* `suffix_display_only`: feeds that differ in their zone suffix.
-/

namespace Newsfeed

namespace Item

/-- The map keeps all fields that decide where a feed places an item. -/
structure KeepsPlace (f : Item → Item) : Prop where
  kind : ∀ it, (f it).kind = it.kind
  category : ∀ it, (f it).category = it.category
  paddedImage : ∀ it, (f it).paddedImage = it.paddedImage
  publisherId : ∀ it, (f it).publisherId = it.publisherId
  publisherName : ∀ it, (f it).publisherName = it.publisherName
  publishedAt : ∀ it, (f it).publishedAt = it.publishedAt

namespace KeepsPlace

variable {f : Item → Item} (hf : KeepsPlace f) (it : Item)

include hf

theorem hasImage : (f it).hasImage = it.hasImage := by
  rw [Item.hasImage, hf.paddedImage, Item.hasImage]

theorem hasPublisher : (f it).hasPublisher = it.hasPublisher := by
  rw [Item.hasPublisher, hf.publisherId, Item.hasPublisher]

theorem offersCategory? : (f it).offersCategory? = it.offersCategory? := by
  rw [Item.offersCategory?, hf.kind, Item.offersCategory?]

theorem isWithin (now : Instant) (window : Span) :
    isWithin now window (f it) = isWithin now window it := by
  rw [Newsfeed.isWithin, hf.publishedAt, Newsfeed.isWithin]

theorem nextPublisher? (items : List Item) :
    nextPublisher? (items.map f) = nextPublisher? items := by
  have htest : Item.hasPublisher ∘ f = Item.hasPublisher := funext hf.hasPublisher
  have hid : (·.publisherId) ∘ f = (·.publisherId) := funext hf.publisherId
  rw [Newsfeed.nextPublisher?, List.find?_map, htest, Option.map_map, hid, Newsfeed.nextPublisher?]

end KeepsPlace

end Item

/-! ## Items changed in their places -/

/-- The page with every item changed. Groups keep their category, their publisher and its name. -/
def Page.map (f : Item → Item) (p : Page) : Page where
  headlines := p.headlines.map f
  recent := p.recent.map f
  deals := p.deals.map f
  category := p.category.map fun g => { g with items := g.items.map f }
  publisher := p.publisher.map fun g => { g with items := g.items.map f }

/-- The feed with every item changed. -/
def Feed.map (f : Item → Item) (feed : Feed) : Feed where
  featuredArticle := feed.featuredArticle.map f
  featuredDeals := feed.featuredDeals.map f
  pages := feed.pages.map (Page.map f)

/-- The pools with every item changed. -/
def Pools.map (f : Item → Item) (pools : Pools) : Pools :=
  ⟨⟨pools.articles.items.map f⟩, ⟨pools.deals.items.map f⟩⟩

theorem Page.map_map (f g : Item → Item) (p : Page) : (p.map f).map g = p.map (g ∘ f) := by
  simp only [Page.map, List.map_map, Option.map_map, Function.comp_def]

theorem Feed.map_map (f g : Item → Item) (feed : Feed) :
    (feed.map f).map g = feed.map (g ∘ f) := by
  simp only [Feed.map, List.map_map, Option.map_map, Function.comp_def, Page.map_map]

section Drawing

variable {f : Item → Item} (hf : Item.KeepsPlace f) (c : Config) (now : Instant)

include hf

/-- The slots of changed articles are the changed slots. -/
theorem fillSlots_keepsPlace (focus : Option String) (items : List Item) :
    fillSlots id c now focus (items.map f) =
      ((fillSlots id c now focus items).1.map f, (fillSlots id c now focus items).2.map f) := by
  -- every test of a slot gives the same answer for a changed article
  have hview : fillSlots (id ∘ f) c now focus items = fillSlots id c now focus items := by
    simp only [fillSlots, headlineDraw, categoryDraw, publisherDraw, recentDraw, Function.id_comp,
      id, List.map_id_fun, hf.hasImage, hf.category, hf.publisherId, hf.isWithin, hf.nextPublisher?]
  rw [fillSlots_map, hview]

theorem toPage_map (slots : ArticleSlots Item) (focus : Option String) (deals : List Item) :
    (slots.map f).toPage focus (deals.map f) = (slots.toPage focus deals).map f := by
  obtain ⟨headlines, category, publisher, recent⟩ := slots
  -- whether there is a group, and what it is called, is told by its first article
  cases focus <;> cases category <;> cases publisher <;>
    simp [ArticleSlots.toPage, ArticleSlots.map, Page.map, hf.publisherId, hf.publisherName]

theorem drawDeals_map (focus : Option String) (deals : List Item) :
    drawDeals c focus ⟨deals.map f⟩ =
      ((drawDeals c focus ⟨deals⟩).1.map f, ⟨(drawDeals c focus ⟨deals⟩).2.items.map f⟩) := by
  have hfocus : focusDraw c focus ⟨deals.map f⟩ =
      ((focusDraw c focus ⟨deals⟩).1.map f, (focusDraw c focus ⟨deals⟩).2.map f) := by
    simp only [focusDraw, Pool.draw_map, Function.comp_def, hf.offersCategory?]
  simp only [drawDeals_eq, hfocus, List.length_map, List.map_append, List.map_take, List.map_drop]

/-- Drawing a page from changed items is changing the page that is drawn. -/
theorem pageStep_map (rotation : Rotation) (i : Nat) (pools : Pools) :
    pageStep c now rotation i (pools.map f) =
      (pageStep c now rotation i pools).map (Prod.map (Page.map f) (Pools.map f)) := by
  simp only [pageStep_eq, Pools.map, fillSlots_keepsPlace hf, drawDeals_map hf, toPage_map hf,
    ArticleSlots.map_headlines, List.isEmpty_map]
  split <;> rfl

theorem drawPages_pages_map (ceiling : Nat) (rotation : Rotation) (pools : Pools) :
    (drawPages c now ceiling rotation (pools.map f)).pages =
      (drawPages c now ceiling rotation pools).pages.map (Page.map f) := by
  rw [drawPages_pages_eq, drawPages_pages_eq,
    loop_simulates (fun i pools => pageStep_map hf c now rotation i pools) ceiling pools]
  rfl

/-- The queues of a rotation are those of changed items. -/
theorem ofItems_map (lead : String) (articles deals : List Item) :
    Rotation.ofItems lead (articles.map f) (deals.map f) = Rotation.ofItems lead articles deals := by
  simp only [Rotation.ofItems, categoryQueue, dealQueue, List.map_map, List.filterMap_map,
    Function.comp_def, hf.category, hf.offersCategory?]

theorem drawFeatured_map (articles : List Item) :
    drawFeatured c ⟨articles.map f⟩ =
      ((drawFeatured c ⟨articles⟩).1.map f, ⟨(drawFeatured c ⟨articles⟩).2.items.map f⟩) := by
  have htest : (fun it : Item => it.category == c.leadCategory) ∘ f =
      fun it => it.category == c.leadCategory := by
    funext it
    simp only [Function.comp_apply, hf.category]
  simp only [drawFeatured_eq, List.find?_map, Pool.draw_map, htest]

/-- Arranging changed items is changing the feed that they are arranged to. -/
theorem arrange_map (articles deals : List Item) :
    (arrange c now (articles.map f) (deals.map f)).1 = (arrange c now articles deals).1.map f := by
  have hpages := drawPages_pages_map hf c now c.maxPages
    (Rotation.ofItems c.leadCategory articles deals)
    ⟨(drawFeatured c ⟨articles⟩).2, ⟨deals.drop c.featuredDeals⟩⟩
  simp only [Pools.map, List.map_drop] at hpages
  simp only [arrange, ofItems_map hf, drawFeatured_map hf, Pool.takeFront, Feed.map, List.map_take,
    hpages]

end Drawing

/-! ## The suffix as a change of items -/

namespace Item

/-- The item with a zone suffix put behind its publish time, unless that is blank. -/
def withZone (suffix : String) (it : Item) : Item :=
  { it with publishTime := it.zonedPublishTime suffix }

/-- The item without its publish time. -/
def withoutPublishTime (it : Item) : Item := { it with publishTime := "" }

theorem withZone_keepsPlace (suffix : String) : KeepsPlace (withZone suffix) :=
  ⟨fun _ => rfl, fun _ => rfl, fun _ => rfl, fun _ => rfl, fun _ => rfl, fun _ => rfl⟩

/-- Without a zone suffix the publish time is shown as it is. -/
theorem zonedPublishTime_empty (it : Item) : it.zonedPublishTime "" = it.publishTime := by
  rw [zonedPublishTime, String.append_empty, ite_self]

/-- Display fields with a zone suffix are those without one, and then the suffix. -/
theorem normalize_withZone (c : Config) (suffix : String) (now : Instant) (it : Item) :
    it.normalize { c with timeSuffix := suffix } now =
      (it.normalize { c with timeSuffix := "" } now).withZone suffix := by
  simp only [normalize_eq, zonedPublishTime_empty]
  rfl

end Item

/-- Drawing does not read the zone suffix. -/
theorem arrange_timeSuffix (c : Config) (suffix : String) (now : Instant)
    (articles deals : List Item) :
    (arrange { c with timeSuffix := suffix } now articles deals).1 =
      (arrange c now articles deals).1 := by
  have hstep : pageStep { c with timeSuffix := suffix } now = pageStep c now := rfl
  simp only [arrange, drawPages_pages_eq, hstep]
  rfl

namespace Assembler

variable {σ : Type} (c : Config) (sh : Shuffler σ) (s : σ) (enabled : Enablement)
  (hosts : List String) (now : Instant) (items : List Item)

/-- The ranked items of one kind as they are shown with a zone suffix. -/
def zonedItems (kind : Item → Bool) (suffix : String) : List Item :=
  ((rank c.sanitized hosts (enabled.filter items)).filter kind).map
    (Item.normalize { c.sanitized with timeSuffix := suffix } now)

/-- The feed that is assembled with a zone suffix. -/
def zonedFeed (suffix : String) : Feed :=
  ((ofConfig { c with timeSuffix := suffix } sh s).assemble enabled hosts now items).1.feed

theorem zonedItems_eq_map (kind : Item → Bool) (suffix : String) :
    zonedItems c enabled hosts now items kind suffix =
      (zonedItems c enabled hosts now items kind "").map (Item.withZone suffix) := by
  have hnormalize : Item.normalize { c.sanitized with timeSuffix := suffix } now =
      Item.withZone suffix ∘ Item.normalize { c.sanitized with timeSuffix := "" } now :=
    funext (Item.normalize_withZone c.sanitized suffix now)
  rw [zonedItems, hnormalize, ← List.map_map, zonedItems]

/-- The suffix comes into a feed by the items only. -/
theorem zonedFeed_eq_arrange (suffix : String) :
    zonedFeed c sh s enabled hosts now items suffix =
      (arrange c.sanitized now
        (shuffleTop sh c.sanitized.shuffleTop s
          (zonedItems c enabled hosts now items Item.isArticle suffix)).1
        (zonedItems c enabled hosts now items Item.isDeal suffix)).1 := by
  -- the suffix survives sanitizing as it is, and the ranking does not read it
  have hstages : zonedFeed c sh s enabled hosts now items suffix =
      let zoned := { c.sanitized with timeSuffix := suffix }
      let parts := partition zoned now (rank c.sanitized hosts (enabled.filter items))
      (arrange zoned now (shuffleTop sh c.sanitized.shuffleTop s parts.articles).1
        parts.deals).1 := rfl
  rw [hstages, arrange_timeSuffix, partition_articles, partition_deals, zonedItems, zonedItems]

/-- The feed with a zone suffix is the feed without one, and then the suffix in every place. -/
theorem zonedFeed_eq_map {sh : Shuffler σ} (hsh : sh.IsContentBlind) (suffix : String) :
    zonedFeed c sh s enabled hosts now items suffix =
      (zonedFeed c sh s enabled hosts now items "").map (Item.withZone suffix) := by
  rw [zonedFeed_eq_arrange, zonedFeed_eq_arrange,
    zonedItems_eq_map c enabled hosts now items Item.isArticle suffix,
    zonedItems_eq_map c enabled hosts now items Item.isDeal suffix, shuffleTop_map hsh,
    arrange_map (Item.withZone_keepsPlace suffix)]

/-- What the feed lists is an item of the snapshot, and its publish time is the delivered one with
the suffix. -/
theorem exists_prepare_of_mem_zonedFeed {sh : Shuffler σ} (hsh : sh.Permutes) (suffix : String)
    {it : Item} (h : it ∈ (zonedFeed c sh s enabled hosts now items suffix).items) :
    ∃ raw ∈ items, it = raw.prepare { c.sanitized with timeSuffix := suffix } hosts now ∧
      it.publishTime = raw.zonedPublishTime suffix := by
  obtain ⟨raw, hraw, rfl⟩ := exists_prepare_of_mem_items _ enabled hosts now items hsh h
  refine ⟨raw, hraw, rfl, ?_⟩
  rw [Item.prepare, Item.normalize_eq]
  rfl

end Assembler

/-- The zone suffix is for display only. With a shuffler that permutes and does not look at what it
shuffles, assemblies whose settings differ in the zone suffix place the same items in the same slots,
and these differ in the text of their publish times only. In each feed that text is the delivered
one, followed by the suffix once unless it is blank. -/
theorem suffix_display_only {σ : Type} (c : Config) {sh : Shuffler σ} (hblind : sh.IsContentBlind)
    (hsh : sh.Permutes) (s : σ) (enabled : Enablement) (hosts : List String) (now : Instant)
    (items : List Item) :
    let feed := fun suffix =>
      ((Assembler.ofConfig { c with timeSuffix := suffix } sh s).assemble enabled hosts now
        items).1.feed
    (∀ suffix suffix', (feed suffix).map Item.withoutPublishTime =
      (feed suffix').map Item.withoutPublishTime) ∧
    (∀ suffix, feed suffix = (feed "").map (Item.withZone suffix)) ∧
    ∀ suffix, ∀ it ∈ (feed suffix).items, ∃ raw ∈ items,
      it = raw.prepare { c.sanitized with timeSuffix := suffix } hosts now ∧
      it.publishTime = if Config.isBlankText raw.publishTime then raw.publishTime
        else raw.publishTime ++ suffix := by
  intro feed
  have hzone : ∀ suffix, feed suffix = (feed "").map (Item.withZone suffix) :=
    Assembler.zonedFeed_eq_map c s enabled hosts now items hblind
  have herase : ∀ suffix, (feed suffix).map Item.withoutPublishTime =
      (feed "").map Item.withoutPublishTime := by
    intro suffix
    rw [hzone, Feed.map_map]
    rfl
  refine ⟨?_, hzone, ?_⟩
  · intro suffix suffix'
    rw [herase suffix, herase suffix']
  · intro suffix it hit
    exact Assembler.exists_prepare_of_mem_zonedFeed c s enabled hosts now items hsh suffix hit

/-- A lead article with a publish time. -/
def sampleDatedLead : Item :=
  { (Item.article "lead" "").withCategory "Top News" with
    publishTime := "2020-04-20 10:00:00"
    publisherId := "on" }

theorem suffix_display_only_sample :
    let feed := fun suffix =>
      ((Assembler.ofConfig { timeSuffix := suffix } (Shuffler.random Words.cyclic)
        (Words.Cycle.ofList [7, 1])).assemble sampleEnablement [] Instant.epoch
          [sampleDatedLead]).1.feed
    (feed " EST").map Item.withoutPublishTime = (feed "").map Item.withoutPublishTime ∧
      ∃ it, (feed " EST").featuredArticle = some it ∧
        it.publishTime = "2020-04-20 10:00:00 EST" := by
  intro feed
  have hsh : (Shuffler.random Words.cyclic).Permutes := random_permutes Words.cyclic
  obtain ⟨herase, -, hraw⟩ := suffix_display_only {} (random_isContentBlind Words.cyclic)
    hsh (Words.Cycle.ofList [7, 1]) sampleEnablement [] Instant.epoch [sampleDatedLead]
  refine ⟨herase " EST" "", ?_⟩
  have hlead : (feed " EST").featuredArticle.isSome = true :=
    (Assembler.featured_isSome_iff _ sampleEnablement [] Instant.epoch [sampleDatedLead] hsh).mpr
      ⟨sampleDatedLead, by decide, by decide, by decide⟩
  obtain ⟨it, hit⟩ := Option.isSome_iff_exists.mp hlead
  have hmem : it ∈ (feed " EST").items := by simp [Feed.items, hit]
  obtain ⟨raw, hsample, -, htime⟩ := hraw " EST" it hmem
  rw [List.mem_singleton.mp hsample] at htime
  exact ⟨it, hit, htime.trans (by decide)⟩

end Newsfeed
