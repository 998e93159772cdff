import Newsfeed.Config
import Newsfeed.Document.Item
import Newsfeed.Publisher

/-!
# Publishers and settings as documents

Both are objects with one field per property, and are also read from arrays that list the fields in
order. A missing field has its default, except that a publisher has an id and a name.
-/

namespace Newsfeed

namespace Publisher

/-- The document of a publisher. -/
def encode (p : Publisher) : Json :=
  .object
    [("publisher_id", .text p.id), ("publisher_name", .text p.name), ("category", .text p.category),
     ("publisher_logo_padded", .text p.paddedLogo), ("enabled", .bool p.enabled),
     ("user_enabled", p.userEnabled.elim .null .bool)]

/-- The publisher of a document. -/
def decode? (j : Json) : Option Publisher := do
  let fields ← j.record?
    ["publisher_id", "publisher_name", "category", "publisher_logo_padded", "enabled",
     "user_enabled"]
  return {
    id := ← Json.required? Json.text? "publisher_id" fields
    name := ← Json.required? Json.text? "publisher_name" fields
    category := ← Json.field? Json.text? "" "category" fields
    paddedLogo := ← Json.field? Json.text? "" "publisher_logo_padded" fields
    enabled := ← Json.field? Json.bool? false "enabled" fields
    userEnabled := ← Json.field? (Json.optional? Json.bool?) none "user_enabled" fields }

end Publisher

namespace Config

/-- The fields of settings. -/
def keys : List String :=
  ["lead_category", "shuffle_top", "headlines_per_page", "recent_per_page", "group_size",
   "deals_per_page", "featured_deals", "recent_window_hours", "max_pages", "history_penalty",
   "missing_score", "history_max_results", "time_suffix"]

/-- The document of settings. -/
def encodeWith (form : ScoreForm) (c : Config) : Json :=
  .object
    [("lead_category", .text c.leadCategory), ("shuffle_top", .int c.shuffleTop),
     ("headlines_per_page", .int c.headlinesPerPage), ("recent_per_page", .int c.recentPerPage),
     ("group_size", .int c.groupSize), ("deals_per_page", .int c.dealsPerPage),
     ("featured_deals", .int c.featuredDeals), ("recent_window_hours", .int c.recentWindowHours),
     ("max_pages", .int c.maxPages), ("history_penalty", form.write c.historyPenalty),
     ("missing_score", form.write c.missingScore),
     ("history_max_results", .int c.historyMaxResults), ("time_suffix", .text c.timeSuffix)]

/-- The settings of a document. -/
def decodeWith? (form : ScoreForm) (j : Json) : Option Config := do
  let fields ← j.record? keys
  let d : Config := {}
  let size (default : Nat) (key : String) : Option Nat := Json.field? Json.size? default key fields
  return {
    leadCategory := ← Json.field? Json.text? d.leadCategory "lead_category" fields
    shuffleTop := ← size d.shuffleTop "shuffle_top"
    headlinesPerPage := ← size d.headlinesPerPage "headlines_per_page"
    recentPerPage := ← size d.recentPerPage "recent_per_page"
    groupSize := ← size d.groupSize "group_size"
    dealsPerPage := ← size d.dealsPerPage "deals_per_page"
    featuredDeals := ← size d.featuredDeals "featured_deals"
    recentWindowHours :=
      ← Json.field? Json.signed? d.recentWindowHours "recent_window_hours" fields
    maxPages := ← size d.maxPages "max_pages"
    historyPenalty := ← Json.field? form.read? d.historyPenalty "history_penalty" fields
    missingScore := ← Json.field? form.read? d.missingScore "missing_score" fields
    historyMaxResults := ← size d.historyMaxResults "history_max_results"
    timeSuffix := ← Json.field? Json.text? d.timeSuffix "time_suffix" fields }

end Config

end Newsfeed
