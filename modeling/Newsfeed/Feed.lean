import Newsfeed.Page

/-!
# Feeds

A feed is what a reader sees: a featured article, featured deals, and pages.

* `Feed.items` : everything in a feed, in order.
* `Feed.isEmpty` : whether there is nothing to show.
-/

namespace Newsfeed

/-- A complete feed. -/
structure Feed where
  featuredArticle : Option Item := none
  featuredDeals : List Item := []
  pages : List Page := []
deriving DecidableEq

namespace Feed

/-- Everything in the feed: the featured article, the featured deals, then page after page. -/
def items (f : Feed) : List Item :=
  f.featuredArticle.toList ++ f.featuredDeals ++ f.pages.flatMap Page.items

/-- Whether there is nothing to show. -/
def isEmpty (f : Feed) : Bool :=
  f.featuredArticle.isNone && f.featuredDeals.isEmpty && f.pages.isEmpty

end Feed

end Newsfeed
