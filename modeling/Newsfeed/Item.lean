import Newsfeed.Score
import Newsfeed.Digest.Sha256
import Newsfeed.Time.RawLayout

/-!
# Items

An item is one entry of a feed as the content source delivers it: an article, a product deal, or
something of a kind that the feed does not place. Articles and deals share all fields but one.

* `Item.article`, `Item.deal` : new items; the `with…` functions fill in one field each.
* `Item.offersCategory?` : the rotation key of a deal, with `offersCategory?_eq_some_iff`.
* `Item.hasImage`, `Item.hasPublisher` : what makes an item a headline or the anchor of a group.
-/

namespace Newsfeed

/-- What an item is. A deal has a rotation key of its own. -/
inductive Kind where
  | article
  | deal (offersCategory : String)
  | other
deriving DecidableEq, Repr

/-- One entry of the content source. An empty text stands for a field that is not known. -/
structure Item where
  kind : Kind
  category : String := ""
  /-- Publish time as delivered, in UTC and without a zone. -/
  publishTime : String := ""
  title : String := ""
  description : String := ""
  url : String := ""
  /-- Key of the item, a digest of its URL. -/
  urlHash : String := ""
  /-- Image as delivered. -/
  paddedImage : String := ""
  /-- Image that is shown. -/
  image : String := ""
  publisherId : String := ""
  publisherName : String := ""
  /-- Base relevance; a lower score ranks earlier. -/
  score : Option Score := none
  /-- Relevance after the browsing history has been taken into account. -/
  points : Option Score := none
  /-- How long ago the item was published, in words. -/
  relativeTime : Option String := none
  /-- The instant of `publishTime`. -/
  publishedAt : Option Instant := none
deriving DecidableEq

namespace Item

instance : Inhabited Item := ⟨{ kind := .other }⟩

/-- A new article. -/
def article (title url : String) : Item := { kind := .article, title, url }

/-- A new deal with its rotation key. -/
def deal (title url offersCategory : String) : Item := { kind := .deal offersCategory, title, url }

/-- The item in a category. -/
def withCategory (it : Item) (category : String) : Item := { it with category }

/-- The item from a publisher. -/
def withPublisher (it : Item) (id name : String) : Item :=
  { it with publisherId := id, publisherName := name }

/-- The item with an image. -/
def withImage (it : Item) (image : String) : Item := { it with paddedImage := image }

/-- The item with a base relevance. -/
def withScore (it : Item) (score : Score) : Item := { it with score := some score }

/-- The item with a given key. -/
def withUrlHash (it : Item) (hash : String) : Item := { it with urlHash := hash }

/-- The item with the raw text of a publish time. -/
def published (it : Item) (t : Instant) : Item :=
  { it with publishTime := String.ofList t.writeRaw }

/-- Whether the item is an article. -/
def isArticle (it : Item) : Bool :=
  match it.kind with
  | .article => true
  | _ => false

/-- Whether the item is a deal. -/
def isDeal (it : Item) : Bool :=
  match it.kind with
  | .deal _ => true
  | _ => false

/-- The rotation key of a deal; other items have none. -/
def offersCategory? (it : Item) : Option String :=
  match it.kind with
  | .deal c => some c
  | _ => none

/-- Deals have a rotation key, and no other items do. -/
theorem offersCategory?_eq_some_iff {it : Item} {key : String} :
    it.offersCategory? = some key ↔ it.kind = .deal key := by
  unfold offersCategory?
  cases it.kind with
  | deal c => rw [Option.some.injEq, Kind.deal.injEq]
  | _ => simp

/-- Whether the item can be a headline: the source supplied an image. -/
def hasImage (it : Item) : Bool := it.paddedImage != ""

/-- Whether the item names its publisher. -/
def hasPublisher (it : Item) : Bool := it.publisherId != ""

end Item

/-- The key of an item: the digest of its URL. -/
def urlDigest (url : String) : String := Sha256.hex url

end Newsfeed
