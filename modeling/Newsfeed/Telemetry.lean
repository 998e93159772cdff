import Newsfeed.Digest.Sha256

/-!
# Telemetry

What an assembly reports while it runs: counters, one gauge and log events. A stage returns the
signals that it gives, in order; nothing is printed and nothing is kept between runs.

* `Signal` : one report of a stage.
* `total?` : what a counter shows after some signals; it is absent until it is first touched.
* `Event.fields` : the named values of a log event.
* `DevLog.install` : whether development logging can be switched on.
-/

namespace Newsfeed

/-- A number that only grows. -/
inductive Counter where
  | itemsIn
  | itemsFiltered
  | historyErrors
  | pagesGenerated
  | pageCapHits
deriving DecidableEq, Repr

/-- The name under which a counter is published. -/
def Counter.name : Counter → String
  | itemsIn => "feed_items_in_total"
  | itemsFiltered => "feed_items_filtered_total"
  | historyErrors => "feed_history_errors_total"
  | pagesGenerated => "feed_pages_generated_total"
  | pageCapHits => "feed_page_cap_hits_total"

/-- Every counter. -/
def Counter.all : List Counter :=
  [itemsIn, itemsFiltered, historyErrors, pagesGenerated, pageCapHits]

/-- The name of the gauge that holds the reference time of the latest assembly. -/
def lastRunGauge : String := "feed_last_run_ts"

/-- The closing report of an assembly. -/
structure RunSummary where
  /-- URL of the featured article, if there is one. -/
  featuredUrl : Option String
  featuredDeals : Nat
  pages : Nat
  filtered : Nat
  skipped : Nat
  leftArticles : Nat
  leftDeals : Nat
deriving DecidableEq, Repr

/-- A log event. -/
inductive Event where
  /-- Items have been ranked; some of them were on a visited host. -/
  | weighted (items historyMatches : Nat)
  /-- No more pages were asked for than the ceiling allows. -/
  | ceilingReached (maxPages : Nat)
  /-- The hosts of the browsing history are known. -/
  | historyHosts (provider : String) (hosts : Nat)
  /-- The browsing history could not be had. -/
  | historyError (provider error : String)
  /-- The assembly is complete. -/
  | assembled (summary : RunSummary)
deriving DecidableEq, Repr

/-- The urgency of an event. -/
inductive Level where
  | debug
  | info
  | warn
deriving DecidableEq, Repr

/-- The name of a level. -/
def Level.name : Level → String
  | debug => "DEBUG"
  | info => "INFO"
  | warn => "WARN"

/-- A value of an event. -/
inductive FieldValue where
  | count (n : Nat)
  | text (s : String)
deriving DecidableEq, Repr

namespace Event

/-- The urgency of an event. -/
def level : Event → Level
  | weighted .. | ceilingReached .. | historyHosts .. => .debug
  | historyError .. => .warn
  | assembled .. => .info

/-- What an event says. -/
def message : Event → String
  | weighted .. => "weighted"
  | ceilingReached .. => "page ceiling reached"
  | historyHosts .. => "history hosts"
  | historyError .. => "history provider error"
  | assembled .. => "feed assembled"

/-- A URL in the log: the first twelve digits of its digest, so that browsing is not laid open. -/
def anonymous (url : String) : String := String.ofList ((Sha256.hex url).toList.take 12)

/-- How the featured article is told in the log. -/
def featuredText : Option String → String
  | none => "None"
  | some url => "Some(\"" ++ anonymous url ++ "\")"

/-- The values of an event under their names. -/
def fields : Event → List (String × FieldValue)
  | weighted items historyMatches =>
    [("items", .count items), ("history_matches", .count historyMatches)]
  | ceilingReached maxPages => [("max_pages", .count maxPages)]
  | historyHosts provider hosts => [("provider", .text provider), ("hosts", .count hosts)]
  | historyError provider error => [("provider", .text provider), ("error", .text error)]
  | assembled s =>
    [("featured", .text (featuredText s.featuredUrl)), ("featured_deals", .count s.featuredDeals),
     ("pages", .count s.pages), ("filtered", .count s.filtered), ("skipped", .count s.skipped),
     ("left_articles", .count s.leftArticles), ("left_deals", .count s.leftDeals)]

end Event

/-- One report of a stage. -/
inductive Signal where
  | count (counter : Counter) (amount : Nat)
  | lastRun (unixSeconds : Int)
  | event (e : Event)
deriving DecidableEq, Repr

namespace Signal

/-- How much each signal adds to a counter. -/
def additions (c : Counter) (signals : List Signal) : List Nat :=
  signals.filterMap fun
    | count c' n => if c' = c then some n else none
    | _ => none

/-- What a counter shows after some signals. -/
def total (c : Counter) (signals : List Signal) : Nat := (additions c signals).foldr (· + ·) 0

/-- What a counter shows, absent if no signal has touched it. -/
def total? (c : Counter) (signals : List Signal) : Option Nat :=
  if (additions c signals).isEmpty then none else some (total c signals)

/-- The latest value of the gauge. -/
def lastRun? (signals : List Signal) : Option Int :=
  (signals.filterMap fun
    | lastRun s => some s
    | _ => none).getLast?

/-- The log events, in order. -/
def events (signals : List Signal) : List Event :=
  signals.filterMap fun
    | event e => some e
    | _ => none

@[simp]
theorem total_append (c : Counter) (a b : List Signal) :
    total c (a ++ b) = total c a + total c b := by
  simp only [total, additions, List.filterMap_append, List.foldr_append]
  generalize a.filterMap _ = ns
  induction ns with
  | nil => simp
  | cons n ns ih => simp only [List.foldr_cons, ih, Nat.add_assoc]

end Signal

namespace DevLog

/-- Development logging is asked for by the value `1` of its variable and no other. -/
def isEnabled (value : Option String) : Bool := value == some "1"

/-- Tries to install the development log: it works if it is asked for and no log has been
installed. Returns whether it worked, and whether a log is installed now. -/
def install (value : Option String) (installed : Bool) : Bool × Bool :=
  let works := isEnabled value && !installed
  (works, works || installed)

end DevLog

end Newsfeed
