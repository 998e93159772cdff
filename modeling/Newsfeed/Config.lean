import Newsfeed.Score
import Newsfeed.Text.Blank

/-!
# Settings of an assembly

The sizes of the slots of a page, the recency window, the weight of the browsing history, and a few
texts. Any value may be given; `Config.sanitized` is the nearest usable one.

* `Config.IsValid` : the settings that an assembly runs with.
* `Config.sanitized` : repairs each field on its own: an unusable value becomes the default, an
  oversized one is cut to the limit of the page layout.
-/

namespace Newsfeed

/-- Settings of an assembly. -/
structure Config where
  /-- Category of the featured article; it also leads the rotation. -/
  leadCategory : String := "Top News"
  /-- How many of the best articles are shuffled. -/
  shuffleTop : Nat := 25
  headlinesPerPage : Nat := 13
  recentPerPage : Nat := 4
  /-- Most items of a category group or a publisher group. -/
  groupSize : Nat := 3
  dealsPerPage : Nat := 3
  featuredDeals : Nat := 3
  /-- How far from the present an article counts as recent. -/
  recentWindowHours : Int := 48
  maxPages : Nat := 4000
  /-- Subtracted from the score of an item whose host was visited; the default is 5. -/
  historyPenalty : Score := ⟨0x4014000000000000⟩
  /-- What an item without a score ranks as; the default is 1000. -/
  missingScore : Score := ⟨0x408f400000000000⟩
  /-- How many visited URLs are asked for. -/
  historyMaxResults : Nat := 200
  /-- Zone marker that is appended to the publish time. -/
  timeSuffix : String := " UTC"
deriving DecidableEq, Repr

namespace Config

instance : Inhabited Config := ⟨{}⟩

/-! ## Limits of the page layout -/

/-- Most headlines of a page. -/
def maxHeadlines : Nat := 13

/-- Most recent articles of a page. -/
def maxRecent : Nat := 4

/-- Most items of a group. -/
def maxGroup : Nat := 3

/-- Most deals of a page. -/
def maxDeals : Nat := 3

/-- Most featured deals. -/
def maxFeatured : Nat := 3

/-- Most pages of a feed. -/
def pageCeiling : Nat := 4000

/-- Longest recency window: a year of 365 days, in hours. -/
def maxWindowHours : Int := 8760

/-! ## Sanitizing -/

/-- Whether a text has nothing but blanks. -/
def isBlankText (s : String) : Bool := Text.isAllBlank s.toList

/-- A size that may not be zero: zero becomes the default, and the limit cuts the rest. -/
def positiveSize (n default limit : Nat) : Nat := min (if n = 0 then default else n) limit

/-- A number that has to be finite. -/
def finiteScore (s default : Score) : Score := if s.isFinite then s else default

/-- The nearest settings that an assembly can run with. -/
def sanitized (c : Config) : Config :=
  let d : Config := {}
  { c with
    leadCategory := if isBlankText c.leadCategory then d.leadCategory else c.leadCategory
    headlinesPerPage := positiveSize c.headlinesPerPage d.headlinesPerPage maxHeadlines
    recentPerPage := min c.recentPerPage maxRecent
    groupSize := min c.groupSize maxGroup
    dealsPerPage := min c.dealsPerPage maxDeals
    featuredDeals := min c.featuredDeals maxFeatured
    recentWindowHours :=
      min (if c.recentWindowHours ≤ 0 then d.recentWindowHours else c.recentWindowHours)
        maxWindowHours
    maxPages := positiveSize c.maxPages d.maxPages pageCeiling
    historyPenalty := finiteScore c.historyPenalty d.historyPenalty
    missingScore := finiteScore c.missingScore d.missingScore }

/-- The settings that an assembly can run with as they are. -/
structure IsValid (c : Config) : Prop where
  lead_not_blank : isBlankText c.leadCategory = false
  headlines_pos : 1 ≤ c.headlinesPerPage
  headlines_le : c.headlinesPerPage ≤ maxHeadlines
  recent_le : c.recentPerPage ≤ maxRecent
  group_le : c.groupSize ≤ maxGroup
  deals_le : c.dealsPerPage ≤ maxDeals
  featured_le : c.featuredDeals ≤ maxFeatured
  pages_pos : 1 ≤ c.maxPages
  pages_le : c.maxPages ≤ pageCeiling
  window_pos : 1 ≤ c.recentWindowHours
  window_le : c.recentWindowHours ≤ maxWindowHours
  penalty_finite : c.historyPenalty.isFinite = true
  missing_finite : c.missingScore.isFinite = true

/-- Equality of settings in which numbers are compared as numbers: a NaN equals nothing, and the
two zeros are equal. -/
def sameSettings (a b : Config) : Bool :=
  a.historyPenalty.sameNumber b.historyPenalty && a.missingScore.sameNumber b.missingScore &&
    a == { b with historyPenalty := a.historyPenalty, missingScore := a.missingScore }

end Config

end Newsfeed
