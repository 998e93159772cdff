import Newsfeed.Display
import Newsfeed.Feed
import Newsfeed.History
import Newsfeed.Page.Run
import Newsfeed.Publisher
import Newsfeed.Ranking
import Newsfeed.Shuffle.Draws

/-!
# Assembly of a feed

A feed is assembled from one snapshot of items: those of enabled publishers are ranked, given their
display fields and split by kind; the best articles are shuffled; the lead article and the first
deals are featured; and pages are drawn from the rest. Whatever is not placed is left in two pools.

* `Assembler` : settings, which are always sanitized, and a shuffler with its state.
* `Assembler.assemble` : one assembly, and the assembler for the next one.
* `Assembly` : the feed, what is left, what was dropped on the way, and what is reported.
-/

namespace Newsfeed

/-- The outcome of an assembly. -/
structure Assembly where
  feed : Feed
  left : Pools
  /-- How many items were dropped because their publisher is not on. -/
  filtered : Nat
  /-- How many items were dropped because of their kind. -/
  skipped : Nat
  signals : List Signal
deriving DecidableEq

/-- Settings that are ready for use, and a shuffler with its state. -/
structure Assembler (σ : Type) where
  config : Config
  shuffler : Shuffler σ
  state : σ

/-- Draws the featured article: the first one of the lead category. -/
def drawFeatured (c : Config) (articles : Pool Item) : Option Item × Pool Item :=
  let (items, left) := articles.take (·.category == c.leadCategory) 1
  (items.head?, left)

/-- Features and pages drawn from articles in their final order and from deals. -/
def arrange (c : Config) (now : Instant) (articles deals : List Item) : Feed × PageRun :=
  let rotation := Rotation.ofItems c.leadCategory articles deals
  let (featuredArticle, articlesLeft) := drawFeatured c ⟨articles⟩
  let (featuredDeals, dealsLeft) := Pool.takeFront ⟨deals⟩ c.featuredDeals
  let run := drawPages c now c.maxPages rotation ⟨articlesLeft, dealsLeft⟩
  ({ featuredArticle, featuredDeals, pages := run.pages }, run)

namespace Assembler

variable {σ : Type}

/-- An assembler with any settings; they are sanitized first. -/
def ofConfig (c : Config) (shuffler : Shuffler σ) (state : σ) : Assembler σ :=
  ⟨c.sanitized, shuffler, state⟩

/-- Assembles a feed from a snapshot. -/
def assemble (a : Assembler σ) (enabled : Enablement) (hosts : List String) (now : Instant)
    (items : List Item) : Assembly × Assembler σ :=
  let c := a.config
  let kept := enabled.filter items
  let filtered := enabled.dropped items
  let parts := partition c now (rank c hosts kept)
  let (articles, state) := shuffleTop a.shuffler c.shuffleTop a.state parts.articles
  let (feed, run) := arrange c now articles parts.deals
  let summary : RunSummary :=
    { featuredUrl := feed.featuredArticle.map (·.url)
      featuredDeals := feed.featuredDeals.length
      pages := feed.pages.length
      filtered
      skipped := parts.skipped
      leftArticles := run.left.articles.size
      leftDeals := run.left.deals.size }
  let signals :=
    [.count .itemsIn items.length, .count .itemsFiltered filtered] ++ rankSignals hosts kept ++
      run.signals c.maxPages ++ [.lastRun now.unixSeconds, .event (.assembled summary)]
  ({ feed, left := run.left, filtered, skipped := parts.skipped, signals }, { a with state })

/-- Asks a provider for the browsing history first, then assembles. -/
def assembleWithHistory (a : Assembler σ) (enabled : Enablement) (provider : HistoryProvider)
    (now : Instant) (items : List Item) : Assembly × Assembler σ :=
  let (hosts, reported) := provider.recentHosts a.config.historyMaxResults
  let (result, next) := a.assemble enabled hosts now items
  ({ result with signals := reported ++ result.signals }, next)

end Assembler

/-- Assembles one feed with the default settings. -/
def assembleOnce {σ : Type} (shuffler : Shuffler σ) (state : σ) (enabled : Enablement)
    (hosts : List String) (now : Instant) (items : List Item) : Assembly :=
  ((Assembler.ofConfig {} shuffler state).assemble enabled hosts now items).1

end Newsfeed
