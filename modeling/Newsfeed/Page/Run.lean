import Newsfeed.Page.Slots
import Newsfeed.Telemetry

/-!
# Runs of pages

A run draws page after page, each with the next focus of the rotation, until no headline is left or
the ceiling is reached.

* `PageRun` : the pages of a run and what it leaves.
* `drawPages` : the run under a ceiling.
* `PageRun.signals` : what a run reports.
-/

namespace Newsfeed

/-- The pages of a run, the pools that it leaves, and whether the ceiling ended it. -/
structure PageRun where
  pages : List Page
  left : Pools
  capped : Bool
deriving DecidableEq

/-- The run with one more page in front. -/
def PageRun.cons (p : Page) (r : PageRun) : PageRun := { r with pages := p :: r.pages }

/-- Draws at most `ceiling` pages. -/
def drawPages (c : Config) (now : Instant) : Nat → Rotation → Pools → PageRun
  | 0, _, pools => ⟨[], pools, true⟩
  | ceiling + 1, rotation, pools =>
    match drawPage c now rotation.focus pools with
    | (none, left) => ⟨[], left, false⟩
    | (some page, left) => (drawPages c now ceiling rotation.advance left).cons page

/-- What a run under a ceiling reports: that the ceiling was reached, and how many pages there
are. -/
def PageRun.signals (r : PageRun) (ceiling : Nat) : List Signal :=
  (if r.capped then [.event (.ceilingReached ceiling), .count .pageCapHits 1] else []) ++
    [.count .pagesGenerated r.pages.length]

end Newsfeed
