import Newsfeed.Config
import Newsfeed.Page
import Newsfeed.Rotation

/-!
# Filling the slots of a page

Each slot draws from what the slots before it have left: headlines, category group, deals,
publisher group, recent articles. Without a single headline there is no page, and nothing is drawn.

* `isWithin` : whether an item was published less than a span away from the present.
* `drawPage` : the next page, if there is one, and the pools that it leaves.
-/

namespace Newsfeed

/-- Whether an item was published within a span of the present, before or after it. Both sides are
counted in whole seconds, and an item without a publish time never is. -/
def isWithin (now : Instant) (window : Span) (it : Item) : Bool :=
  match it.publishedAt with
  | some t => (now.secondsApart t : Int) < window.wholeSeconds
  | none => false

namespace Config

/-- The window of an assembly whose own window cannot be measured: two days. -/
def fallbackWindow : Span := Span.ofSeconds (48 * 3600) 0

/-- The span within which an article counts as recent. -/
def recentWindow (c : Config) : Span := (Span.ofHours? c.recentWindowHours).getD fallbackWindow

end Config

/-- Draws the headlines: articles with an image. -/
def drawHeadlines (c : Config) (articles : Pool Item) : List Item × Pool Item :=
  articles.take Item.hasImage c.headlinesPerPage

/-- Draws the group of the category in focus. A group without articles is no group. -/
def drawCategory (c : Config) (focus : Option String) (articles : Pool Item) :
    Option CategoryGroup × Pool Item :=
  match focus with
  | none => (none, articles)
  | some category =>
    let (items, left) := articles.take (·.category == category) c.groupSize
    (if items.isEmpty then none else some ⟨category, items⟩, left)

/-- Draws the deals: those of the category in focus first, then whatever is in front. -/
def drawDeals (c : Config) (focus : Option String) (deals : Pool Item) : List Item × Pool Item :=
  let (focused, left) :=
    match focus with
    | none => ([], deals)
    | some category => deals.take (·.offersCategory? == some category) c.dealsPerPage
  let (others, left) := left.takeFront (c.dealsPerPage - focused.length)
  (focused ++ others, left)

/-- Draws the group of the publisher whose article comes first. -/
def drawPublisher (c : Config) (articles : Pool Item) : Option PublisherGroup × Pool Item :=
  match articles.find? Item.hasPublisher with
  | none => (none, articles)
  | some anchor =>
    let (items, left) := articles.take (·.publisherId == anchor.publisherId) c.groupSize
    (if items.isEmpty then none else some ⟨anchor.publisherId, anchor.publisherName, items⟩, left)

/-- Draws the recent articles. -/
def drawRecent (c : Config) (now : Instant) (articles : Pool Item) : List Item × Pool Item :=
  articles.take (isWithin now c.recentWindow) c.recentPerPage

/-- Draws the next page. -/
def drawPage (c : Config) (now : Instant) (focus : Focus) (pools : Pools) : Option Page × Pools :=
  let (headlines, articles) := drawHeadlines c pools.articles
  if headlines.isEmpty then (none, { pools with articles })
  else
    let (category, articles) := drawCategory c focus.category articles
    let (deals, dealsLeft) := drawDeals c focus.deals pools.deals
    let (publisher, articles) := drawPublisher c articles
    let (recent, articles) := drawRecent c now articles
    (some { headlines, recent, deals, category, publisher }, { articles, deals := dealsLeft })

end Newsfeed
