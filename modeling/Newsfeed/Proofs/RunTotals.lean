import Mathlib.Algebra.Ring.Nat
import Newsfeed.Proofs.Snapshot

/-! # Totals over many runs

The counters of an assembly are fed by different stages: before the filter, after it, and after the
last page. They are compared here with what goes into the runs and what comes out, over any sequence
of calls, and with the closing report of each run, which has to account for every item.

* `Signal.total_flatMap`: the total of many runs is the sum of their totals;
* `drawPages_capped_iff`: a run has hit the ceiling if and only if it has as many pages;
* `Assembler.total_assemble`: what one run adds to each counter;
* `Assembler.summary_balance`: the closing report of a run accounts for every item;
* `telemetry_agrees`: both facts, for every sequence of calls.
-/

namespace Newsfeed

universe u

namespace Signal

/-- What a counter shows after many runs is the sum of what each of them adds. -/
theorem total_flatMap {α : Type u} (c : Counter) (report : α → List Signal) (runs : List α) :
    total c (runs.flatMap report) = (runs.map fun r => total c (report r)).sum := by
  induction runs with
  | nil => rfl
  | cons r runs ih => rw [List.flatMap_cons, total_append, ih, List.map_cons, List.sum_cons]

/-- The closing reports among some signals. -/
def summaries (signals : List Signal) : List RunSummary :=
  signals.filterMap fun
    | event (.assembled summary) => some summary
    | _ => none

theorem summaries_append (a b : List Signal) : summaries (a ++ b) = summaries a ++ summaries b :=
  List.filterMap_append

end Signal

/-- What is counted once for each entry of a kind is the number of such entries. -/
theorem sum_map_ite_eq_countP {α : Type u} (kind : α → Bool) (xs : List α) :
    (xs.map fun x => if kind x then 1 else 0).sum = xs.countP kind := by
  induction xs with
  | nil => rfl
  | cons x xs ih => rw [List.map_cons, List.sum_cons, ih, List.countP_cons, Nat.add_comm]

/-! ## One run -/

/-- A run has hit the ceiling if and only if it has as many pages. -/
theorem drawPages_capped_iff {c : Config} {now : Instant} {ceiling : Nat} {rotation : Rotation}
    {pools : Pools} :
    (drawPages c now ceiling rotation pools).capped = true ↔
      (drawPages c now ceiling rotation pools).pages.length = ceiling := by
  induction ceiling generalizing rotation pools with
  | zero => simp [drawPages]
  | succ ceiling ih =>
      rw [drawPages]
      cases drawPage c now rotation.focus pools with
      | mk page? left =>
          cases page? with
          | none => simp
          | some page => simpa [PageRun.cons] using ih

theorem PageRun.total_signals (r : PageRun) (ceiling : Nat) (counter : Counter) :
    Signal.total counter (r.signals ceiling) =
      match counter with
      | .pagesGenerated => r.pages.length
      | .pageCapHits => if r.capped then 1 else 0
      | _ => 0 := by
  rw [signals, Signal.total_append]
  cases r.capped <;> cases counter <;> simp [Signal.total, Signal.additions]

/-- Entries either are of a kind or are not. -/
theorem length_eq_countP_add_not {α : Type u} (kind : α → Bool) (xs : List α) :
    xs.length = xs.countP kind + xs.countP fun x => !kind x := by
  simpa only [Bool.not_eq_true, Bool.decide_eq_false] using
    List.length_eq_countP_add_countP kind (l := xs)

/-- The items that the filter drops are those whose publisher is not on. -/
theorem Enablement.dropped_eq_countP (t : Enablement) (items : List Item) :
    t.dropped items = items.countP fun it => t.get? it.publisherId ≠ some true := by
  have hsplit := length_eq_countP_add_not (fun it : Item => t.isOn it.publisherId) items
  have hoff : (items.countP fun it => !t.isOn it.publisherId) =
      items.countP fun it => t.get? it.publisherId ≠ some true :=
    List.countP_congr fun it _ => by simp [isOn]
  rw [dropped, filter, ← List.countP_eq_length_filter, ← hoff]
  omega

namespace Assembler

variable {σ : Type} (a : Assembler σ) (enabled : Enablement) (hosts : List String)
  (now : Instant) (items : List Item)

/-- The closing report of a run. -/
def summary : RunSummary :=
  let result := (a.assemble enabled hosts now items).1
  { featuredUrl := result.feed.featuredArticle.map (·.url)
    featuredDeals := result.feed.featuredDeals.length
    pages := result.feed.pages.length
    filtered := enabled.dropped items
    skipped := (a.parts enabled hosts now items).skipped
    leftArticles := result.left.articles.size
    leftDeals := result.left.deals.size }

/-- What a run reports, stage by stage. -/
theorem assemble_signals :
    (a.assemble enabled hosts now items).1.signals =
      [.count .itemsIn items.length, .count .itemsFiltered (enabled.dropped items)] ++
        rankSignals hosts (enabled.filter items) ++
        (a.pageRun enabled hosts now items).signals a.config.maxPages ++
        [.lastRun now.unixSeconds, .event (.assembled (a.summary enabled hosts now items))] :=
  rfl

/-- What a run adds to each counter. -/
theorem total_assemble (counter : Counter) :
    Signal.total counter (a.assemble enabled hosts now items).1.signals =
      match counter with
      | .itemsIn => items.length
      | .itemsFiltered => items.countP fun it => enabled.get? it.publisherId ≠ some true
      | .historyErrors => 0
      | .pagesGenerated => (a.assemble enabled hosts now items).1.feed.pages.length
      | .pageCapHits =>
        if (a.assemble enabled hosts now items).1.feed.pages.length = a.config.maxPages then 1
        else 0 := by
  rw [assemble_signals, assemble_feed, ← Enablement.dropped_eq_countP]
  simp only [Signal.total_append, PageRun.total_signals]
  cases counter with
  | itemsIn => simp [Signal.total, Signal.additions, rankSignals]
  | itemsFiltered => simp [Signal.total, Signal.additions, rankSignals]
  | historyErrors => simp [Signal.total, Signal.additions, rankSignals]
  | pagesGenerated => simp [Signal.total, Signal.additions, rankSignals]
  | pageCapHits =>
      have hcapped : (if (a.pageRun enabled hosts now items).capped then 1 else 0) =
          if (a.pageRun enabled hosts now items).pages.length = a.config.maxPages then 1 else 0 :=
        if_congr drawPages_capped_iff rfl rfl
      simpa [Signal.total, Signal.additions, rankSignals] using hcapped

/-- A run has one closing report. -/
theorem summaries_assemble :
    Signal.summaries (a.assemble enabled hosts now items).1.signals =
      [a.summary enabled hosts now items] := by
  have hrun : Signal.summaries ((a.pageRun enabled hosts now items).signals a.config.maxPages) =
      [] := by
    rw [PageRun.signals]
    split <;> rfl
  rw [assemble_signals, Signal.summaries_append, Signal.summaries_append, hrun]
  rfl

/-- The items that a run skips are those of publishers that are on and of a kind that is not
placed. -/
theorem parts_skipped :
    (a.parts enabled hosts now items).skipped =
      (enabled.filter items).countP fun it => !it.isPlaceable := by
  have hplaceable : ∀ it : Item,
      ((it.weigh a.config hosts).normalize a.config now).isPlaceable = it.isPlaceable := by
    intro it
    rw [← Item.prepare, Item.isPlaceable, Item.isArticle_prepare, Item.isDeal_prepare,
      Item.isPlaceable]
  have hranked := (rank_perm a.config hosts (enabled.filter items)).map (Item.normalize a.config now)
  rw [parts, partition, hranked.countP_eq, List.map_map, List.countP_map]
  exact List.countP_congr fun it _ => by simp [hplaceable]

/-- As many articles are listed or left over as the snapshot has. That the shuffler works in place
is enough here: it need not hand back the articles that it was given. -/
theorem length_articles (hsh : a.shuffler.KeepsLength) :
    (a.assemble enabled hosts now items).1.feed.articles.length +
        (a.assemble enabled hosts now items).1.left.articles.size =
      ((enabled.filter items).filter Item.isArticle).length := by
  have hplaced := (articles_perm_shuffled a enabled hosts now items).length_eq
  have hranked := (parts_articles_perm a enabled hosts now items).length_eq
  rw [List.length_append] at hplaced
  rw [List.length_map] at hranked
  rw [Pool.size, hplaced, shuffled, length_shuffleTop hsh, hranked]

theorem length_deals :
    (a.assemble enabled hosts now items).1.feed.deals.length +
        (a.assemble enabled hosts now items).1.left.deals.size =
      ((enabled.filter items).filter Item.isDeal).length := by
  have hplaced := (deals_perm a enabled hosts now items).length_eq
  rwa [List.length_append, List.length_map] at hplaced

/-- The closing report of a run accounts for every item that it does not list. -/
theorem summary_balance (hsh : a.shuffler.KeepsLength) :
    items.length =
      (a.summary enabled hosts now items).filtered + (a.summary enabled hosts now items).skipped +
        (a.summary enabled hosts now items).leftArticles +
        (a.summary enabled hosts now items).leftDeals +
        (a.assemble enabled hosts now items).1.feed.items.length := by
  have harticles := length_articles a enabled hosts now items hsh
  have hdeals := length_deals a enabled hosts now items
  have hlisted := (a.assemble enabled hosts now items).1.feed.items_perm.length_eq
  have hfilter : (enabled.filter items).length ≤ items.length := List.length_filter_le _ _
  have hkinds := length_eq_countP_add_not Item.isPlaceable (enabled.filter items)
  have hplaceable := (filter_isPlaceable_perm (enabled.filter items)).length_eq
  rw [← List.countP_eq_length_filter (p := Item.isPlaceable)] at hplaceable
  rw [List.length_append] at hlisted hplaceable
  simp only [summary, parts_skipped, Enablement.dropped]
  omega

end Assembler

/-! ## Many runs -/

/-- One call of an assembler, with all that it is given. The state of the shuffler is the one at the
call, so an assembler that is used again is told by calls with the states between them. -/
structure Call where
  {σ : Type}
  config : Config
  shuffler : Shuffler σ
  state : σ
  enabled : Enablement
  hosts : List String
  now : Instant
  items : List Item

/-- The outcome of a call. -/
def Call.result (k : Call) : Assembly :=
  ((Assembler.ofConfig k.config k.shuffler k.state).assemble k.enabled k.hosts k.now k.items).1

/-- What each call adds to a counter, its total shows. -/
theorem total_calls {counter : Counter} {added : Call → Nat}
    (hadded : ∀ k : Call, Signal.total counter k.result.signals = added k) (calls : List Call) :
    Signal.total counter (calls.flatMap fun k => k.result.signals) = (calls.map added).sum := by
  rw [Signal.total_flatMap]
  exact congrArg List.sum (List.map_congr_left fun k _ => hadded k)

/-- The counters agree with the runs, over any sequence of calls: they show how many items went in,
how many of them were from publishers that are not on, how many pages came out, and how many feeds
have as many pages as the ceiling allows. And each run whose shuffler works in place closes with one
report, which accounts for every item that the feed does not list. -/
theorem telemetry_agrees (calls : List Call) :
    let reported := calls.flatMap fun k => k.result.signals
    Signal.total .itemsIn reported = (calls.map fun k => k.items.length).sum ∧
      Signal.total .itemsFiltered reported =
        (calls.map fun k =>
          k.items.countP fun it => k.enabled.get? it.publisherId ≠ some true).sum ∧
      Signal.total .pagesGenerated reported =
        (calls.map fun k => k.result.feed.pages.length).sum ∧
      Signal.total .pageCapHits reported =
        calls.countP (fun k => k.result.feed.pages.length = k.config.sanitized.maxPages) ∧
      ∀ k ∈ calls, k.shuffler.KeepsLength →
        ∃ summary, Signal.summaries k.result.signals = [summary] ∧
          k.items.length = summary.filtered + summary.skipped + summary.leftArticles +
            summary.leftDeals + k.result.feed.items.length := by
  intro reported
  refine ⟨total_calls (fun k => ?_) calls, total_calls (fun k => ?_) calls,
    total_calls (fun k => ?_) calls, ?_, ?_⟩
  · exact Assembler.total_assemble _ _ _ _ _ .itemsIn
  · exact Assembler.total_assemble _ _ _ _ _ .itemsFiltered
  · exact Assembler.total_assemble _ _ _ _ _ .pagesGenerated
  · rw [← sum_map_ite_eq_countP]
    apply total_calls
    intro k
    simp only [decide_eq_true_eq]
    exact Assembler.total_assemble _ _ _ _ _ .pageCapHits
  · intro k _ hsh
    exact ⟨_, Assembler.summaries_assemble _ _ _ _ _, Assembler.summary_balance _ _ _ _ _ hsh⟩

theorem telemetry_agrees_sample :
    let call := fun (c : Config) =>
      (⟨c, Shuffler.reversal, (), sampleEnablement, [], Instant.epoch, sampleSnapshot⟩ : Call)
    let calls := [call { maxPages := 1 }, call {}]
    let reported := calls.flatMap fun k => k.result.signals
    Signal.total .itemsIn reported = 10 ∧ Signal.total .itemsFiltered reported = 2 ∧
      Signal.total .pagesGenerated reported = 2 ∧ Signal.total .pageCapHits reported = 1 ∧
      call {} ∈ calls ∧ Shuffler.reversal.KeepsLength ∧
      ∃ summary, Signal.summaries (call {}).result.signals = [summary] ∧
        5 = summary.filtered + summary.skipped + summary.leftArticles + summary.leftDeals +
          (call {}).result.feed.items.length := by
  intro call calls reported
  have hfeed := fun (c : Config) => Assembler.assemble_feed_of_sorted
    (Assembler.ofConfig c Shuffler.reversal ()) sampleEnablement [] Instant.epoch sampleSnapshot
  have hlimited : (call { maxPages := 1 }).result.feed.pages.length = 1 := by
    simp only [call, Call.result, hfeed { maxPages := 1 } (by decide)]
    decide
  have hdefault : (call {}).result.feed.pages.length = 1 := by
    simp only [call, Call.result, hfeed {} (by decide)]
    decide
  obtain ⟨hin, hfiltered, hgenerated, hcapped, hbalance⟩ := telemetry_agrees calls
  have hmember : call {} ∈ calls := List.mem_cons_of_mem _ List.mem_cons_self
  have hsh : Shuffler.reversal.KeepsLength := Shuffler.reversal_permutes.keepsLength
  refine ⟨hin, ?_, ?_, ?_, hmember, hsh, hbalance (call {}) hmember hsh⟩
  · rw [hfiltered]
    decide
  · rw [hgenerated]
    simp only [calls, List.map_cons, List.map_nil, hlimited, hdefault]
    rfl
  · rw [hcapped]
    simp only [calls, List.countP_cons, List.countP_nil, hlimited, hdefault]
    decide

end Newsfeed
