import Newsfeed.Item
import Newsfeed.Json
import Newsfeed.Time.StoredForm

/-!
# Items as documents

An item is an object with one field per property. The kind is told by `content_type`; fields that
the feed does not know are passed over, though what they hold has to make sense and may not be
nested too deep.

* `ScoreForm` : how scores are written; as numbers, unless a caller wants another form.
* `Item.encode`, `Item.decode?` : the document of an item, and the item of a document.
-/

namespace Newsfeed

/-- How a score stands in a document. -/
structure ScoreForm where
  write : Score → Json
  read? : Json → Option Score

/-- A score as a number. One that is not finite cannot be told and is written as null. -/
def ScoreForm.number : ScoreForm :=
  { write := fun s => if s.isFinite then .real (some s) else .null
    read? := Json.score? }

namespace Kind

/-- The name of a kind. -/
def name : Kind → String
  | article => "article"
  | deal _ => "product"
  | other => "other"

/-- The field that tells the kind. -/
def nameKey : String := "content_type"

/-- The field of a deal. -/
def offersKey : String := "offers_category"

/-- The fields of a kind. -/
def encode (k : Kind) : List (String × Json) :=
  (nameKey, .text k.name) ::
    match k with
    | deal c => [(offersKey, .text c)]
    | _ => []

/-- The rotation key of a deal, empty if the field is missing; it may not be repeated. -/
def decodeOffers? (fields : List (Option String × Json)) : Option Kind :=
  match Json.valuesOf offersKey fields with
  | [] => some (deal "")
  | [j] => j.text?.map deal
  | _ => none

/-- The kind that a document tells by a name or by a number. Unknown names and numbers tell the
kind of items that are not placed. -/
def decode? (fields : List (Option String × Json)) : Option Kind :=
  match Json.valuesOf nameKey fields with
  | [.str (some name)] =>
    if name = "article" then some article
    else if name = "product" then decodeOffers? fields
    else some other
  | [.int n] =>
    if n < 0 then none
    else if n = 0 then some article
    else if n = 1 then decodeOffers? fields
    else some other
  | _ => none

end Kind

/-- An instant in its stored form. -/
def Instant.encode (t : Instant) : Json := .text (String.ofList t.writeStored)

/-- The instant of a text. -/
def Instant.decode? (j : Json) : Option Instant := do
  let s ← j.text?
  StoredForm.read? s.toList

namespace Item

/-- The fields that items of all kinds have. -/
def keys : List String :=
  ["category", "publish_time", "title", "description", "url", "url_hash", "padded_img", "img",
   "publisher_id", "publisher_name", "score", "points", "relative_time", "published_at"]

/-- The document of an item. -/
def encodeWith (form : ScoreForm) (it : Item) : Json :=
  .object (it.kind.encode ++
    [("category", .text it.category), ("publish_time", .text it.publishTime),
     ("title", .text it.title), ("description", .text it.description), ("url", .text it.url),
     ("url_hash", .text it.urlHash), ("padded_img", .text it.paddedImage),
     ("img", .text it.image), ("publisher_id", .text it.publisherId),
     ("publisher_name", .text it.publisherName)] ++
    Json.present "score" form.write it.score ++ Json.present "points" form.write it.points ++
    Json.present "relative_time" Json.text it.relativeTime ++
    Json.present "published_at" Instant.encode it.publishedAt)

/-- The document of an item, scores being numbers. -/
def encode (it : Item) : Json := it.encodeWith .number

/-- The item of an object. -/
def ofFields? (form : ScoreForm) (fields : List (Option String × Json)) : Option Item := do
  let known ← Json.knownFields? keys fields
  let kind ← Kind.decode? fields
  let text (key : String) : Option String := Json.field? Json.text? "" key known
  let optional {α : Type} (read? : Json → Option α) (key : String) : Option (Option α) :=
    Json.field? (Json.optional? read?) none key known
  return {
    kind
    category := ← text "category"
    publishTime := ← text "publish_time"
    title := ← text "title"
    description := ← text "description"
    url := ← text "url"
    urlHash := ← text "url_hash"
    paddedImage := ← text "padded_img"
    image := ← text "img"
    publisherId := ← text "publisher_id"
    publisherName := ← text "publisher_name"
    score := ← optional form.read? "score"
    points := ← optional form.read? "points"
    relativeTime := ← optional Json.text? "relative_time"
    publishedAt := ← optional Instant.decode? "published_at" }

/-- How many levels of nesting a document may have in all. -/
def maxDepth : Nat := 127

/-- The item of a document, which has to be an object of at most `room` levels in which every
literal denotes something. -/
def decodeWith? (form : ScoreForm) (room : Nat) (j : Json) : Option Item :=
  match j with
  | .obj fields => if j.depth ≤ room && j.denotes then ofFields? form fields else none
  | _ => none

/-- The item of a document of its own. -/
def decode? (j : Json) : Option Item := decodeWith? .number maxDepth j

end Item

end Newsfeed
