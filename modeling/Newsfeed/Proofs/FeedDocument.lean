import Newsfeed.Document.Feed
import Newsfeed.Proofs.ItemDocument

/-! # Feeds and their documents

Groups, pages and feeds are read from their documents as they were written, because the items that
they hold are. An item may lie as deep as 127 levels; in a feed, the items of a group are the deepest,
on the sixth.

* `CategoryGroup.decodeWith?_encodeWith`, `PublisherGroup.decodeWith?_encodeWith`,
  `Page.decodeWith?_encodeWith`, `Feed.decodeWith?_encodeWith`: what is read from a document;
* `Feed.FitsDocument`: what a feed has to be so that a document can tell it, with
  `Feed.ensures_fitsDocument`: feeds that were read are such feeds;
* `feed_document_round_trip`: feeds and documents, there and back.
-/

namespace Newsfeed

open Json

/-! ## Lists of items -/

theorem decodeItems?_encodeItems {items : List Item} (h : ∀ it ∈ items, it.FitsDocument)
    {room : Nat} (hroom : 2 ≤ room) :
    decodeItems? .number room (encodeItems .number items) = some items :=
  list?_map fun it hit => Item.decodeWith?_encodeWith (h it hit) (by omega)

theorem ensures_decodeItems? (room : Nat) :
    Ensures (decodeItems? .number room) fun items => ∀ it ∈ items, it.FitsDocument :=
  (Item.ensures_fitsDocument (room - 1)).list?

theorem hasFiniteNumbers_encodeItems (items : List Item) :
    (encodeItems .number items).HasFiniteNumbers :=
  .arr_map Item.hasFiniteNumbers_encodeWith items

/-- A list of items that stands under a key is read as it was written. -/
theorem required?_items {known : List (String × Json)} {key : String} {items : List Item}
    (hkey : known.lookup key = some (encodeItems .number items))
    (h : ∀ it ∈ items, it.FitsDocument) {room : Nat} (hroom : 2 ≤ room) :
    required? (decodeItems? .number room) key known = some items := by
  rw [required?_of_lookup hkey, decodeItems?_encodeItems h hroom]

/-! ## Groups -/

namespace CategoryGroup

/-- A document can tell all of the articles. -/
def FitsDocument (g : CategoryGroup) : Prop := ∀ it ∈ g.items, it.FitsDocument

/-- The fields that a group is read from. -/
def keys : List String := ["categoryName", "items"]

/-- The fields of the document of a group. -/
def fields (g : CategoryGroup) : List (String × Json) :=
  [("categoryName", .text g.category), ("items", encodeItems .number g.items)]

theorem decodeWith?_eq_some_iff {form : ScoreForm} {room : Nat} {j : Json} {g : CategoryGroup} :
    decodeWith? form room j = some g ↔
      ∃ known, j.record? keys = some known ∧
        required? text? "categoryName" known = some g.category ∧
        required? (decodeItems? form (room - 1)) "items" known = some g.items := by
  simp only [decodeWith?, Option.bind_eq_bind, Option.bind_eq_some_iff, Option.pure_def,
    Option.some.injEq]
  constructor
  · rintro ⟨known, hknown, category, hcategory, items, hitems, rfl⟩
    exact ⟨known, hknown, hcategory, hitems⟩
  · rintro ⟨known, hknown, hcategory, hitems⟩
    exact ⟨known, hknown, _, hcategory, _, hitems, rfl⟩

/-- A group is read from its document as it was written. -/
theorem decodeWith?_encodeWith {g : CategoryGroup} (h : g.FitsDocument) {room : Nat}
    (hroom : 3 ≤ room) : decodeWith? .number room (g.encodeWith .number) = some g := by
  have hnodup : (g.fields.map Prod.fst).Nodup := by
    show keys.Nodup
    decide
  have hfields : keys.map (fun key => g.fields.lookup key) =
      [some (.text g.category), some (encodeItems .number g.items)] := rfl
  obtain ⟨known, hknown, hvalues⟩ := exists_record?_object hnodup keys
  rw [hfields] at hvalues
  simp only [keys, List.map_cons, List.map_nil, List.cons.injEq, and_true] at hvalues
  obtain ⟨hcategory, hitems⟩ := hvalues
  refine decodeWith?_eq_some_iff.mpr ⟨known, hknown, ?_, ?_⟩
  · exact required?_of_lookup hcategory
  · exact required?_items hitems h (by omega)

theorem hasFiniteNumbers_encodeWith (g : CategoryGroup) :
    (g.encodeWith .number).HasFiniteNumbers := by
  show (Json.object g.fields).HasFiniteNumbers
  refine .object ?_
  simp only [fields, List.forall_mem_cons]
  exact ⟨.str _, hasFiniteNumbers_encodeItems _, List.forall_mem_nil _⟩

theorem ensures_fitsDocument (room : Nat) : Ensures (decodeWith? .number room) FitsDocument := by
  intro j g hj h
  obtain ⟨known, hknown, -, hitems⟩ := decodeWith?_eq_some_iff.mp h
  show ∀ it ∈ g.items, it.FitsDocument
  exact Ensures.required? (hj.record? hknown) (ensures_decodeItems? _) hitems

end CategoryGroup

namespace PublisherGroup

/-- A document can tell all of the articles. -/
def FitsDocument (g : PublisherGroup) : Prop := ∀ it ∈ g.items, it.FitsDocument

/-- The fields that a group is read from. -/
def keys : List String := ["publisherId", "name", "items"]

/-- The fields of the document of a group. -/
def fields (g : PublisherGroup) : List (String × Json) :=
  [("publisherId", .text g.publisherId), ("name", .text g.name),
   ("items", encodeItems .number g.items)]

theorem decodeWith?_eq_some_iff {form : ScoreForm} {room : Nat} {j : Json} {g : PublisherGroup} :
    decodeWith? form room j = some g ↔
      ∃ known, j.record? keys = some known ∧
        required? text? "publisherId" known = some g.publisherId ∧
        required? text? "name" known = some g.name ∧
        required? (decodeItems? form (room - 1)) "items" known = some g.items := by
  simp only [decodeWith?, Option.bind_eq_bind, Option.bind_eq_some_iff, Option.pure_def,
    Option.some.injEq]
  constructor
  · rintro ⟨known, hknown, publisherId, hpublisherId, name, hname, items, hitems, rfl⟩
    exact ⟨known, hknown, hpublisherId, hname, hitems⟩
  · rintro ⟨known, hknown, hpublisherId, hname, hitems⟩
    exact ⟨known, hknown, _, hpublisherId, _, hname, _, hitems, rfl⟩

/-- A group is read from its document as it was written. -/
theorem decodeWith?_encodeWith {g : PublisherGroup} (h : g.FitsDocument) {room : Nat}
    (hroom : 3 ≤ room) : decodeWith? .number room (g.encodeWith .number) = some g := by
  have hnodup : (g.fields.map Prod.fst).Nodup := by
    show keys.Nodup
    decide
  have hfields : keys.map (fun key => g.fields.lookup key) =
      [some (.text g.publisherId), some (.text g.name), some (encodeItems .number g.items)] := rfl
  obtain ⟨known, hknown, hvalues⟩ := exists_record?_object hnodup keys
  rw [hfields] at hvalues
  simp only [keys, List.map_cons, List.map_nil, List.cons.injEq, and_true] at hvalues
  obtain ⟨hpublisherId, hname, hitems⟩ := hvalues
  refine decodeWith?_eq_some_iff.mpr ⟨known, hknown, ?_, ?_, ?_⟩
  · exact required?_of_lookup hpublisherId
  · exact required?_of_lookup hname
  · exact required?_items hitems h (by omega)

theorem hasFiniteNumbers_encodeWith (g : PublisherGroup) :
    (g.encodeWith .number).HasFiniteNumbers := by
  show (Json.object g.fields).HasFiniteNumbers
  refine .object ?_
  simp only [fields, List.forall_mem_cons]
  exact ⟨.str _, .str _, hasFiniteNumbers_encodeItems _, List.forall_mem_nil _⟩

theorem ensures_fitsDocument (room : Nat) : Ensures (decodeWith? .number room) FitsDocument := by
  intro j g hj h
  obtain ⟨known, hknown, -, -, hitems⟩ := decodeWith?_eq_some_iff.mp h
  show ∀ it ∈ g.items, it.FitsDocument
  exact Ensures.required? (hj.record? hknown) (ensures_decodeItems? _) hitems

end PublisherGroup

/-! ## Pages -/

namespace Page

/-- A document can tell everything on the page, slot by slot. -/
structure FitsDocument (p : Page) : Prop where
  headlines : ∀ it ∈ p.headlines, it.FitsDocument
  recent : ∀ it ∈ p.recent, it.FitsDocument
  deals : ∀ it ∈ p.deals, it.FitsDocument
  category : ∀ g, p.category = some g → g.FitsDocument
  publisher : ∀ g, p.publisher = some g → g.FitsDocument

theorem mem_categoryItems {p : Page} {it : Item} :
    it ∈ p.categoryItems ↔ ∃ g, p.category = some g ∧ it ∈ g.items := by
  cases h : p.category <;> simp [categoryItems, h]

theorem mem_publisherItems {p : Page} {it : Item} :
    it ∈ p.publisherItems ↔ ∃ g, p.publisher = some g ∧ it ∈ g.items := by
  cases h : p.publisher <;> simp [publisherItems, h]

/-- The slots hold everything that is on the page. -/
theorem fitsDocument_iff {p : Page} :
    p.FitsDocument ↔ ∀ it ∈ p.items, it.FitsDocument := by
  simp only [items, List.forall_mem_append]
  constructor
  · intro h
    refine ⟨⟨⟨⟨h.headlines, ?_⟩, h.deals⟩, ?_⟩, h.recent⟩
    · intro it hit
      obtain ⟨g, hg, hmem⟩ := mem_categoryItems.mp hit
      exact h.category g hg it hmem
    · intro it hit
      obtain ⟨g, hg, hmem⟩ := mem_publisherItems.mp hit
      exact h.publisher g hg it hmem
  · rintro ⟨⟨⟨⟨hheadlines, hcategory⟩, hdeals⟩, hpublisher⟩, hrecent⟩
    refine ⟨hheadlines, hrecent, hdeals, ?_, ?_⟩
    · intro g hg it hit
      exact hcategory it (mem_categoryItems.mpr ⟨g, hg, hit⟩)
    · intro g hg it hit
      exact hpublisher it (mem_publisherItems.mpr ⟨g, hg, hit⟩)

/-- The fields that a page is read from. -/
def keys : List String :=
  ["articles", "randomArticles", "deals", "itemsByCategory", "itemsByPublisher"]

/-- The fields of the document of a page. -/
def fields (p : Page) : List (String × Json) :=
  [("articles", encodeItems .number p.headlines), ("randomArticles", encodeItems .number p.recent),
   ("deals", encodeItems .number p.deals)] ++
    present "itemsByCategory" (CategoryGroup.encodeWith .number) p.category ++
    present "itemsByPublisher" (PublisherGroup.encodeWith .number) p.publisher

theorem nodup_keys (p : Page) : (p.fields.map Prod.fst).Nodup := by
  have hkeys : (p.fields.map Prod.fst).Sublist
      (["articles", "randomArticles", "deals"] ++ ["itemsByCategory"] ++ ["itemsByPublisher"]) := by
    simp only [fields, List.map_append]
    exact ((List.Sublist.refl _).append (keys_present_sublist _ _ _)).append
      (keys_present_sublist _ _ _)
  exact hkeys.nodup (by decide)

theorem lookup_fields (p : Page) :
    keys.map (fun key => p.fields.lookup key) =
      [some (encodeItems .number p.headlines), some (encodeItems .number p.recent),
       some (encodeItems .number p.deals), p.category.map (CategoryGroup.encodeWith .number),
       p.publisher.map (PublisherGroup.encodeWith .number)] := by
  simp [keys, fields, List.lookup_append, List.lookup_cons, lookup_present]

/-- The known fields of a record say what the page is. -/
structure ToldBy (p : Page) (form : ScoreForm) (room : Nat) (known : List (String × Json)) :
    Prop where
  headlines : required? (decodeItems? form (room - 1)) "articles" known = some p.headlines
  recent : required? (decodeItems? form (room - 1)) "randomArticles" known = some p.recent
  deals : required? (decodeItems? form (room - 1)) "deals" known = some p.deals
  category : field? (optional? (CategoryGroup.decodeWith? form (room - 1))) none
    "itemsByCategory" known = some p.category
  publisher : field? (optional? (PublisherGroup.decodeWith? form (room - 1))) none
    "itemsByPublisher" known = some p.publisher

theorem decodeWith?_eq_some_iff {form : ScoreForm} {room : Nat} {j : Json} {p : Page} :
    decodeWith? form room j = some p ↔
      ∃ known, j.record? keys = some known ∧ p.ToldBy form room known := by
  simp only [decodeWith?, Option.bind_eq_bind, Option.bind_eq_some_iff, Option.pure_def,
    Option.some.injEq]
  constructor
  · rintro ⟨known, hknown, headlines, hheadlines, recent, hrecent, deals, hdeals, category,
      hcategory, publisher, hpublisher, rfl⟩
    exact ⟨known, hknown, hheadlines, hrecent, hdeals, hcategory, hpublisher⟩
  · rintro ⟨known, hknown, h⟩
    exact ⟨known, hknown, _, h.headlines, _, h.recent, _, h.deals, _, h.category, _, h.publisher,
      rfl⟩

/-- A page is read from its document as it was written. -/
theorem decodeWith?_encodeWith {p : Page} (h : p.FitsDocument) {room : Nat} (hroom : 4 ≤ room) :
    decodeWith? .number room (p.encodeWith .number) = some p := by
  obtain ⟨known, hknown, hvalues⟩ := exists_record?_object p.nodup_keys keys
  rw [p.lookup_fields] at hvalues
  simp only [keys, List.map_cons, List.map_nil, List.cons.injEq, and_true] at hvalues
  obtain ⟨hheadlines, hrecent, hdeals, hcategory, hpublisher⟩ := hvalues
  refine decodeWith?_eq_some_iff.mpr ⟨known, hknown, ?_⟩
  constructor
  case headlines => exact required?_items hheadlines h.headlines (by omega)
  case recent => exact required?_items hrecent h.recent (by omega)
  case deals => exact required?_items hdeals h.deals (by omega)
  case category =>
    exact optional?_of_lookup hcategory fun g hg =>
      ⟨Json.noConfusion, CategoryGroup.decodeWith?_encodeWith (h.category g hg) (by omega)⟩
  case publisher =>
    exact optional?_of_lookup hpublisher fun g hg =>
      ⟨Json.noConfusion, PublisherGroup.decodeWith?_encodeWith (h.publisher g hg) (by omega)⟩

theorem hasFiniteNumbers_encodeWith (p : Page) : (p.encodeWith .number).HasFiniteNumbers := by
  show (Json.object p.fields).HasFiniteNumbers
  refine .object ?_
  simp only [fields, List.forall_mem_append, List.forall_mem_cons]
  refine ⟨⟨⟨?_, ?_, ?_, ?_⟩, ?_⟩, ?_⟩
  · exact hasFiniteNumbers_encodeItems _
  · exact hasFiniteNumbers_encodeItems _
  · exact hasFiniteNumbers_encodeItems _
  · exact List.forall_mem_nil _
  · exact hasFiniteNumbers_of_mem_present CategoryGroup.hasFiniteNumbers_encodeWith
  · exact hasFiniteNumbers_of_mem_present PublisherGroup.hasFiniteNumbers_encodeWith

theorem ensures_fitsDocument (room : Nat) : Ensures (decodeWith? .number room) FitsDocument := by
  intro j p hj h
  obtain ⟨known, hknown, htold⟩ := decodeWith?_eq_some_iff.mp h
  have hfinite := hj.record? hknown
  have hitems := ensures_decodeItems? (room - 1)
  constructor
  case headlines => exact Ensures.required? hfinite hitems htold.headlines
  case recent => exact Ensures.required? hfinite hitems htold.recent
  case deals => exact Ensures.required? hfinite hitems htold.deals
  case category =>
    refine Ensures.field? hfinite (CategoryGroup.ensures_fitsDocument _).optional? ?_
      htold.category
    rintro g ⟨⟩
  case publisher =>
    refine Ensures.field? hfinite (PublisherGroup.ensures_fitsDocument _).optional? ?_
      htold.publisher
    rintro g ⟨⟩

end Page

/-! ## Feeds -/

namespace Feed

/-- A document can tell everything in the feed. -/
def FitsDocument (f : Feed) : Prop := ∀ it ∈ f.items, it.FitsDocument

instance (f : Feed) : Decidable f.FitsDocument :=
  inferInstanceAs (Decidable (∀ it ∈ f.items, it.FitsDocument))

/-- The scores of everything in the feed are finite. -/
def HasFiniteScores (f : Feed) : Prop := ∀ it ∈ f.items, it.HasFiniteScores

instance (f : Feed) : Decidable f.HasFiniteScores :=
  inferInstanceAs (Decidable (∀ it ∈ f.items, it.HasFiniteScores))

/-- The fields that a feed is read from. -/
def keys : List String := ["featuredArticle", "featuredDeals", "pages"]

/-- The fields of the document of a feed. -/
def fields (f : Feed) : List (String × Json) :=
  present "featuredArticle" (Item.encodeWith .number) f.featuredArticle ++
    [("featuredDeals", encodeItems .number f.featuredDeals),
     ("pages", .arr (f.pages.map (Page.encodeWith .number)))]

theorem nodup_keys (f : Feed) : (f.fields.map Prod.fst).Nodup := by
  have hkeys : (f.fields.map Prod.fst).Sublist
      (["featuredArticle"] ++ ["featuredDeals", "pages"]) := by
    rw [fields, List.map_append]
    exact (keys_present_sublist _ _ _).append (List.Sublist.refl _)
  exact hkeys.nodup (by decide)

theorem lookup_fields (f : Feed) :
    keys.map (fun key => f.fields.lookup key) =
      [f.featuredArticle.map (Item.encodeWith .number),
       some (encodeItems .number f.featuredDeals),
       some (.arr (f.pages.map (Page.encodeWith .number)))] := by
  simp [keys, fields, List.lookup_append, List.lookup_cons, lookup_present]

/-- The known fields of a record say what the feed is. -/
structure ToldBy (f : Feed) (form : ScoreForm) (room : Nat) (known : List (String × Json)) :
    Prop where
  featuredArticle : field? (optional? (Item.decodeWith? form (room - 1))) none
    "featuredArticle" known = some f.featuredArticle
  featuredDeals : field? (decodeItems? form (room - 1)) [] "featuredDeals" known =
    some f.featuredDeals
  pages : field? (list? (Page.decodeWith? form (room - 2))) [] "pages" known = some f.pages

theorem decodeWith?_eq_some_iff {form : ScoreForm} {room : Nat} {j : Json} {f : Feed} :
    decodeWith? form room j = some f ↔
      ∃ known, j.record? keys = some known ∧ f.ToldBy form room known := by
  simp only [decodeWith?, Option.bind_eq_bind, Option.bind_eq_some_iff, Option.pure_def,
    Option.some.injEq]
  constructor
  · rintro ⟨known, hknown, article, harticle, deals, hdeals, pages, hpages, rfl⟩
    exact ⟨known, hknown, harticle, hdeals, hpages⟩
  · rintro ⟨known, hknown, h⟩
    exact ⟨known, hknown, _, h.featuredArticle, _, h.featuredDeals, _, h.pages, rfl⟩

/-- The parts of a feed hold everything that is in it. -/
theorem fitsDocument_iff {f : Feed} :
    f.FitsDocument ↔ (∀ it, f.featuredArticle = some it → it.FitsDocument) ∧
      (∀ it ∈ f.featuredDeals, it.FitsDocument) ∧ ∀ p ∈ f.pages, p.FitsDocument := by
  simp only [FitsDocument, items, List.forall_mem_append, Option.mem_toList,
    List.forall_mem_flatMap, Page.fitsDocument_iff, and_assoc]

/-- A feed is read from its document as it was written, if the document can tell it. -/
theorem decodeWith?_encodeWith {f : Feed} (h : f.FitsDocument) {room : Nat} (hroom : 6 ≤ room) :
    decodeWith? .number room (f.encodeWith .number) = some f := by
  obtain ⟨harticle, hdeals, hpages⟩ := fitsDocument_iff.mp h
  obtain ⟨known, hknown, hvalues⟩ := exists_record?_object f.nodup_keys keys
  rw [f.lookup_fields] at hvalues
  simp only [keys, List.map_cons, List.map_nil, List.cons.injEq, and_true] at hvalues
  obtain ⟨harticle', hdeals', hpages'⟩ := hvalues
  refine decodeWith?_eq_some_iff.mpr ⟨known, hknown, ?_⟩
  constructor
  case featuredArticle =>
    exact optional?_of_lookup harticle' fun it hit =>
      ⟨Json.noConfusion, Item.decodeWith?_encodeWith (harticle it hit) (by omega)⟩
  case featuredDeals =>
    rw [field?_of_lookup hdeals']
    exact decodeItems?_encodeItems hdeals (by omega)
  case pages =>
    rw [field?_of_lookup hpages']
    exact list?_map fun p hp => Page.decodeWith?_encodeWith (hpages p hp) (by omega)

/-- The numbers of the document of a feed are finite, whatever the scores are. -/
theorem hasFiniteNumbers_encode (f : Feed) : f.encode.HasFiniteNumbers := by
  show (Json.object f.fields).HasFiniteNumbers
  refine .object ?_
  simp only [fields, List.forall_mem_append, List.forall_mem_cons]
  refine ⟨?_, ?_, ?_, ?_⟩
  · exact hasFiniteNumbers_of_mem_present Item.hasFiniteNumbers_encodeWith
  · exact hasFiniteNumbers_encodeItems _
  · exact .arr_map Page.hasFiniteNumbers_encodeWith _
  · exact List.forall_mem_nil _

theorem ensures_fitsDocument (room : Nat) : Ensures (decodeWith? .number room) FitsDocument := by
  intro j f hj h
  obtain ⟨known, hknown, htold⟩ := decodeWith?_eq_some_iff.mp h
  have hfinite := hj.record? hknown
  refine fitsDocument_iff.mpr ⟨?_, ?_, ?_⟩
  · refine Ensures.field? hfinite (Item.ensures_fitsDocument _).optional? ?_
      htold.featuredArticle
    rintro it ⟨⟩
  · refine Ensures.field? hfinite (ensures_decodeItems? _) ?_ htold.featuredDeals
    rintro it ⟨⟩
  · refine Ensures.field? hfinite (Page.ensures_fitsDocument _).list? ?_ htold.pages
    rintro p ⟨⟩

end Feed

/-! ## There and back -/

/-- The document of a feed gives the feed back exactly if it can tell everything in it: the scores are
finite, and leap seconds end a minute. The document of every feed that was read gives it back: from a
value whose numbers are finite, however deep it may go, or from a text. -/
theorem feed_document_round_trip :
    (∀ f : Feed, Feed.decode? f.encode = some f ↔ f.FitsDocument) ∧
    (∀ (room : Nat) (j : Json) (f : Feed), j.HasFiniteNumbers →
      Feed.decodeWith? .number room j = some f → Feed.decode? f.encode = some f) ∧
    ∀ (s : String) (j : Json) (f : Feed), parse? s = some j → Feed.decode? j = some f →
      Feed.decode? f.encode = some f := by
  have hfeed : ∀ f : Feed, f.FitsDocument → Feed.decode? f.encode = some f := by
    intro f h
    exact Feed.decodeWith?_encodeWith h (by decide)
  have hvalue : ∀ (room : Nat) (j : Json) (f : Feed), j.HasFiniteNumbers →
      Feed.decodeWith? .number room j = some f → Feed.decode? f.encode = some f := by
    intro room j f hj h
    exact hfeed f (Feed.ensures_fitsDocument room j f hj h)
  refine ⟨?_, hvalue, ?_⟩
  · intro f
    constructor
    · intro h
      exact Feed.ensures_fitsDocument _ f.encode f f.hasFiniteNumbers_encode h
    · exact hfeed f
  · -- JSON text has no way to write a number that is not finite
    intro s j f hj h
    exact hvalue Item.maxDepth j f (hasFiniteNumbers_of_parse? hj) h

/-- A feed with items of all kinds, groups on its first page only, and leap seconds in years that four
digits do not hold. -/
def sampleFeed : Feed :=
  { featuredArticle := some
      { kind := .article, title := "first", score := some ⟨0x8000000000000000⟩
        publishedAt := Instant.of? 2932897 86399 1999999999 }
    featuredDeals := [{ kind := .deal "shoes", points := some ⟨0x4000000000000000⟩ }]
    pages :=
      [{ headlines := [{ kind := .other, relativeTime := some "" }], recent := [], deals := []
         category := some { category := "news", items := [{ kind := .article }] }
         publisher := some { publisherId := "p", name := "", items := [] } },
       { headlines := [], deals := [{ kind := .deal "" }]
         recent := [{ kind := .article, publishedAt := Instant.of? (-719529) 59 1500000000 }] }] }

/-- The fields of a deal that is told by a number, with one field that is not known. -/
def sampleDealFields : List (Option String × Json) :=
  [(some "content_type", .int 1), (some "score", .real (some ⟨0x4000000000000000⟩)),
   (some "more", .arr [.bool true])]

/-- A feed with that deal, as an array of its fields. -/
def sampleDocument : Json := .arr [.null, .arr [.obj sampleDealFields]]

/-- The feed that this document gives. -/
def sampleDealFeed : Feed :=
  { featuredDeals := [{ kind := .deal "", score := some ⟨0x4000000000000000⟩ }] }

theorem feed_document_round_trip_sample :
    (sampleFeed.FitsDocument ∧ Feed.decode? sampleFeed.encode = some sampleFeed) ∧
    (sampleDocument.HasFiniteNumbers ∧ Feed.decode? sampleDocument = some sampleDealFeed ∧
      Feed.decode? sampleDealFeed.encode = some sampleDealFeed) ∧
    (parse? "[null, [], []]" = some (.arr [.null, .arr [], .arr []]) ∧
      Feed.decode? (.arr [.null, .arr [], .arr []]) = some {} ∧
      Feed.decode? (Feed.encode {}) = some {}) := by
  have hfits : sampleFeed.FitsDocument := by decide
  have hnumbers : sampleDocument.HasFiniteNumbers := by
    have hitem : ∀ f ∈ sampleDealFields, f.2.HasFiniteNumbers := by
      simp only [sampleDealFields, List.forall_mem_cons]
      refine ⟨.int 1, .real ?_, .arr ?_, List.forall_mem_nil _⟩
      · rintro s ⟨⟩
        decide
      · exact List.forall_mem_singleton.mpr (.bool true)
    exact .arr (List.forall_mem_cons.mpr ⟨.null, List.forall_mem_singleton.mpr
      (.arr (List.forall_mem_singleton.mpr (.obj hitem)))⟩)
  have hdocument : Feed.decode? sampleDocument = some sampleDealFeed := by decide
  have hparse : parse? "[null, [], []]" = some (.arr [.null, .arr [], .arr []]) := by rfl
  have hempty : Feed.decode? (.arr [.null, .arr [], .arr []]) = some {} := by rfl
  exact ⟨⟨hfits, (feed_document_round_trip.1 _).mpr hfits⟩,
    ⟨hnumbers, hdocument, feed_document_round_trip.2.1 Item.maxDepth _ _ hnumbers hdocument⟩,
    ⟨hparse, hempty, feed_document_round_trip.2.2 _ _ _ hparse hempty⟩⟩

/-- A feed of one article that was published at an instant. -/
def articleFeed (publishedAt : Option Instant) : Feed :=
  { featuredArticle := some { kind := .article, publishedAt } }

/-- The document of an article of a leap second at noon tells the next second, and is read as a feed
of that one. -/
theorem leap_at_noon_feed_not_read_back :
    (articleFeed (some .leapAtNoon)).HasFiniteScores ∧
      Feed.decode? (articleFeed (some .leapAtNoon)).encode =
        some (articleFeed (Instant.of? 18372 43201 500000000)) ∧
      Feed.decode? (articleFeed (some .leapAtNoon)).encode ≠
        some (articleFeed (some .leapAtNoon)) := by
  have hfinite : (articleFeed (some .leapAtNoon)).HasFiniteScores := by decide
  have hread : Feed.decode? (articleFeed (some .leapAtNoon)).encode =
      some (articleFeed (Instant.of? 18372 43201 500000000)) := by decide
  refine ⟨hfinite, hread, ?_⟩
  rw [hread]
  decide

end Newsfeed
