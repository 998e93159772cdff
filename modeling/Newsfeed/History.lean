import Newsfeed.Telemetry
import Newsfeed.Url.Host

/-!
# Browsing history

A provider hands out recently visited URLs, most recent first. Only their hosts matter. A provider
that fails counts as one that has nothing to tell, and the failure is reported.

* `hostsOfUrls` : the hosts of some URLs; what is no URL or has no host is passed over, and so are
  empty texts (`hostsOfUrls_filter_ne_empty`).
* `HistoryProvider.ofUrls` : a provider over a fixed list.
* `HistoryProvider.recentHosts` : the hosts that a provider yields, and what is reported.
-/

namespace Newsfeed

/-- The hosts of some URLs, in order. -/
def hostsOfUrls (urls : List String) : List String := urls.filterMap hostOf?

/-- An empty text has no scheme, so it is no URL. -/
theorem hostOf?_empty : hostOf? "" = none := by decide

/-- Passing over empty texts first makes no difference. -/
theorem hostsOfUrls_filter_ne_empty (urls : List String) :
    hostsOfUrls (urls.filter (· ≠ "")) = hostsOfUrls urls := by
  have hsame : (fun url => if url ≠ "" then hostOf? url else none) = hostOf? := by
    funext url
    by_cases h : url = ""
    · rw [if_neg (not_not_intro h), h, hostOf?_empty]
    · rw [if_pos h]
  simp only [hostsOfUrls, List.filterMap_filter, decide_eq_true_eq, hsame]

/-- A source of visited URLs under a name. It is told how many are wanted at most, and may fail
with a message. -/
structure HistoryProvider where
  name : String
  recentUrls : (limit : Nat) → Except String (List String)

namespace HistoryProvider

/-- A provider over a fixed list, which keeps to the limit. -/
def ofUrls (urls : List String) : HistoryProvider :=
  { name := "static", recentUrls := fun limit => .ok (urls.take limit) }

/-- The hosts of the visited URLs, none if the provider fails, and what is reported. -/
def recentHosts (p : HistoryProvider) (limit : Nat) : List String × List Signal :=
  match p.recentUrls limit with
  | .ok urls =>
    let hosts := hostsOfUrls urls
    (hosts, [.event (.historyHosts p.name hosts.length)])
  | .error e => ([], [.event (.historyError p.name e), .count .historyErrors 1])

end HistoryProvider

end Newsfeed
