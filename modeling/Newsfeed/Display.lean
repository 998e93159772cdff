import Newsfeed.Config
import Newsfeed.Item
import Newsfeed.Time.Distance
import Newsfeed.Time.Rfc3339

/-!
# Display fields

What the rendering layer reads of an item is filled in before the item is placed: the image, the
key, the publish time with its zone, its instant, and how long ago that was.

* `readPublishTime?` : the instant of a publish time as delivered.
* `Item.normalize` : the item with its display fields.
* `partition` : ranked items split into articles and deals, in rank order.
-/

namespace Newsfeed

/-- The instant of a publish time: the raw layout or, failing that, RFC 3339. Blanks around it do
not matter. -/
def readPublishTime? (text : String) : Option Instant :=
  let s := Text.trim text.toList
  match RawLayout.read? s with
  | some t => some t
  | none => Rfc3339.read? s

namespace Item

/-- The key of an item: the one it has or else the digest of its URL. An item without a URL gets
none. -/
def key (it : Item) : String :=
  if it.urlHash == "" && it.url != "" then urlDigest it.url else it.urlHash

/-- The item with its display fields filled in. The zone suffix is appended to the publish time
after its instant has been read; a blank publish time stays as it is. -/
def normalize (c : Config) (now : Instant) (it : Item) : Item :=
  let shown := { it with image := it.paddedImage, urlHash := it.key }
  if Config.isBlankText it.publishTime then
    { shown with relativeTime := none, publishedAt := none }
  else
    let at? := readPublishTime? it.publishTime
    { shown with
      publishTime := it.publishTime ++ c.timeSuffix
      publishedAt := at?
      relativeTime := at?.map fun t => relativeLabel t now }

end Item

/-- Ranked items by kind, each in rank order, and the number of items that the feed does not
place. -/
structure Partition where
  articles : List Item
  deals : List Item
  skipped : Nat
deriving DecidableEq

/-- Whether the feed places items of this kind. -/
def Item.isPlaceable (it : Item) : Bool := it.isArticle || it.isDeal

/-- Fills in the display fields and splits the items by kind. -/
def partition (c : Config) (now : Instant) (items : List Item) : Partition :=
  let shown := items.map (Item.normalize c now)
  { articles := shown.filter Item.isArticle
    deals := shown.filter Item.isDeal
    skipped := shown.countP fun it => !it.isPlaceable }

end Newsfeed
