import Newsfeed.Item
import Newsfeed.Pool

/-!
# Pages

A page has five slots: headlines, a group of one category, deals, a group of one publisher, and
recent articles. The two groups may be missing.

* `Page.items` : everything on a page, slot by slot in the order in which the slots are filled.
* `Pools` : what is left to draw from.
-/

namespace Newsfeed

/-- Articles of one category. -/
structure CategoryGroup where
  category : String
  items : List Item
deriving DecidableEq

/-- Articles of one publisher, under the name that the first of them gives. -/
structure PublisherGroup where
  publisherId : String
  name : String
  items : List Item
deriving DecidableEq

/-- One page of a feed. -/
structure Page where
  headlines : List Item
  recent : List Item
  deals : List Item
  category : Option CategoryGroup := none
  publisher : Option PublisherGroup := none
deriving DecidableEq

namespace Page

/-- The articles of the category group, none if it is missing. -/
def categoryItems (p : Page) : List Item := p.category.elim [] (·.items)

/-- The articles of the publisher group, none if it is missing. -/
def publisherItems (p : Page) : List Item := p.publisher.elim [] (·.items)

/-- Everything on the page, slot by slot. -/
def items (p : Page) : List Item :=
  p.headlines ++ p.categoryItems ++ p.deals ++ p.publisherItems ++ p.recent

/-- The articles on the page: every slot but the deals. -/
def articles (p : Page) : List Item :=
  p.headlines ++ p.categoryItems ++ p.publisherItems ++ p.recent

end Page

/-- The articles and deals that are left to draw from. -/
structure Pools where
  articles : Pool Item := {}
  deals : Pool Item := {}
deriving DecidableEq

end Newsfeed
