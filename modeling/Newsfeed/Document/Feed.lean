import Newsfeed.Document.Item
import Newsfeed.Feed

/-!
# Feeds as documents

Groups, pages and feeds are objects whose keys are in camel case. They are also read from arrays
that list the fields in order, and fields of other names are passed over.

* `Feed.encode`, `Feed.decode?` : the document of a feed, and the feed of a document; likewise for
  lists of items, groups and pages.

Reading takes the number of levels that are left for the document: every array and every object
uses one of them up.
-/

namespace Newsfeed

/-- The documents of some items. -/
def encodeItems (form : ScoreForm) (items : List Item) : Json :=
  .arr (items.map (Item.encodeWith form))

/-- The items of an array of documents. -/
def decodeItems? (form : ScoreForm) (room : Nat) : Json → Option (List Item) :=
  Json.list? (Item.decodeWith? form (room - 1))

namespace CategoryGroup

/-- The document of a group. -/
def encodeWith (form : ScoreForm) (g : CategoryGroup) : Json :=
  .object [("categoryName", .text g.category), ("items", encodeItems form g.items)]

/-- The group of a document. -/
def decodeWith? (form : ScoreForm) (room : Nat) (j : Json) : Option CategoryGroup := do
  let fields ← j.record? ["categoryName", "items"]
  return {
    category := ← Json.required? Json.text? "categoryName" fields
    items := ← Json.required? (decodeItems? form (room - 1)) "items" fields }

end CategoryGroup

namespace PublisherGroup

/-- The document of a group. -/
def encodeWith (form : ScoreForm) (g : PublisherGroup) : Json :=
  .object
    [("publisherId", .text g.publisherId), ("name", .text g.name),
     ("items", encodeItems form g.items)]

/-- The group of a document. -/
def decodeWith? (form : ScoreForm) (room : Nat) (j : Json) : Option PublisherGroup := do
  let fields ← j.record? ["publisherId", "name", "items"]
  return {
    publisherId := ← Json.required? Json.text? "publisherId" fields
    name := ← Json.required? Json.text? "name" fields
    items := ← Json.required? (decodeItems? form (room - 1)) "items" fields }

end PublisherGroup

namespace Page

/-- The document of a page; groups that are missing are left out. -/
def encodeWith (form : ScoreForm) (p : Page) : Json :=
  .object (
    [("articles", encodeItems form p.headlines), ("randomArticles", encodeItems form p.recent),
     ("deals", encodeItems form p.deals)] ++
    Json.present "itemsByCategory" (CategoryGroup.encodeWith form) p.category ++
    Json.present "itemsByPublisher" (PublisherGroup.encodeWith form) p.publisher)

/-- The page of a document. -/
def decodeWith? (form : ScoreForm) (room : Nat) (j : Json) : Option Page := do
  let fields ← j.record?
    ["articles", "randomArticles", "deals", "itemsByCategory", "itemsByPublisher"]
  let slot (key : String) : Option (List Item) :=
    Json.required? (decodeItems? form (room - 1)) key fields
  return {
    headlines := ← slot "articles"
    recent := ← slot "randomArticles"
    deals := ← slot "deals"
    category := ← Json.field? (Json.optional? (CategoryGroup.decodeWith? form (room - 1))) none
      "itemsByCategory" fields
    publisher := ← Json.field? (Json.optional? (PublisherGroup.decodeWith? form (room - 1))) none
      "itemsByPublisher" fields }

end Page

namespace Feed

/-- The document of a feed; a featured article that is missing is left out. -/
def encodeWith (form : ScoreForm) (f : Feed) : Json :=
  .object (
    Json.present "featuredArticle" (Item.encodeWith form) f.featuredArticle ++
    [("featuredDeals", encodeItems form f.featuredDeals),
     ("pages", .arr (f.pages.map (Page.encodeWith form)))])

/-- The feed of a document; every field may be missing. -/
def decodeWith? (form : ScoreForm) (room : Nat) (j : Json) : Option Feed := do
  let fields ← j.record? ["featuredArticle", "featuredDeals", "pages"]
  return {
    featuredArticle := ← Json.field? (Json.optional? (Item.decodeWith? form (room - 1))) none
      "featuredArticle" fields
    featuredDeals := ← Json.field? (decodeItems? form (room - 1)) [] "featuredDeals" fields
    pages := ← Json.field? (Json.list? (Page.decodeWith? form (room - 2))) [] "pages" fields }

/-- The document of a feed, scores being numbers. -/
def encode (f : Feed) : Json := f.encodeWith .number

/-- The feed of a document of its own. -/
def decode? (j : Json) : Option Feed := decodeWith? .number Item.maxDepth j

end Feed

end Newsfeed
