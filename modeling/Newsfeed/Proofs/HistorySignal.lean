import Newsfeed.Proofs.Conservation

/-! # The signal of the browsing history

Visited URLs reach an assembly as hosts, and so do the URLs of its items: both are read by
`hostOf?`, so an item is matched if its own host is the host of a visited URL. What is no URL drops
out on either side and never matches. A provider that fails leaves an assembly as it is without any
history, but for one more error that is counted.

* `isVisited_hostsOfUrls_iff`: an item is visited if it shares its host with a visited URL;
* `Item.prepare_hasPoints`: the points of an item are its score, less the penalty if it is visited;
* `Assembler.exists_prepare_of_mem_items`: what a feed lists is an item of the snapshot, prepared;
* `history_signal`: the three facts together, for every provider.
-/

namespace Newsfeed

/-! ## Hosts of items and hosts of URLs -/

/-- The item is on a host that one of the URLs is on. -/
def Item.SharesHost (urls : List String) (it : Item) : Prop :=
  ∃ host, hostOf? it.url = some host ∧ ∃ url ∈ urls, hostOf? url = some host

theorem mem_hostsOfUrls_iff {host : String} {urls : List String} :
    host ∈ hostsOfUrls urls ↔ ∃ url ∈ urls, hostOf? url = some host :=
  List.mem_filterMap

/-- An item is visited if it shares its host with a visited URL. -/
theorem isVisited_hostsOfUrls_iff {urls : List String} {it : Item} :
    isVisited (hostsOfUrls urls) it = true ↔ it.SharesHost urls := by
  rw [isVisited_iff, Item.SharesHost]
  simp only [mem_hostsOfUrls_iff]

theorem isVisited_nil (it : Item) : isVisited [] it = false := rfl

/-! ## Points -/

/-- The points of an item are its score, less the penalty if it is matched. Without a score there
are no points. -/
structure Item.HasPoints (penalty : Score) (isMatched : Prop) (it : Item) : Prop where
  matched : ∀ s, it.score = some s → isMatched → it.points = some (s - penalty)
  unmatched : ∀ s, it.score = some s → ¬isMatched → it.points = some s
  unscored : it.score = none → it.points = none

namespace Item

theorem HasPoints.of_matched {penalty : Score} {isMatched : Prop} {it : Item}
    (h : it.HasPoints penalty isMatched) (hmatched : isMatched) :
    it.points = it.score.map (· - penalty) := by
  cases hscore : it.score with
  | none => exact h.unscored hscore
  | some s => exact h.matched s hscore hmatched

theorem HasPoints.of_unmatched {penalty : Score} {isMatched : Prop} {it : Item}
    (h : it.HasPoints penalty isMatched) (hunmatched : ¬isMatched) : it.points = it.score := by
  cases hscore : it.score with
  | none => exact h.unscored hscore
  | some s => exact h.unmatched s hscore hunmatched

/-- A weighed item has the points that its host gives it. -/
theorem weigh_hasPoints (c : Config) (hosts : List String) (it : Item) :
    (it.weigh c hosts).HasPoints c.historyPenalty (isVisited hosts it = true) := by
  have hscore : (it.weigh c hosts).score = it.score := rfl
  have hpoints : (it.weigh c hosts).points = it.weightedScore c hosts := rfl
  constructor
  case matched =>
    intro s hs hvisited
    rw [hscore] at hs
    rw [hpoints, weightedScore, hs, Option.map_some, if_pos hvisited]
  case unmatched =>
    intro s hs hvisited
    rw [hscore] at hs
    rw [hpoints, weightedScore, hs, Option.map_some, if_neg hvisited]
  case unscored =>
    intro hs
    rw [hscore] at hs
    rw [hpoints, weightedScore, hs, Option.map_none]

/-- The display fields have no part in the points. -/
theorem HasPoints.normalize {penalty : Score} {isMatched : Prop} {it : Item}
    (h : it.HasPoints penalty isMatched) (c : Config) (now : Instant) :
    (it.normalize c now).HasPoints penalty isMatched := by
  obtain ⟨hmatched, hunmatched, hunscored⟩ := h
  rw [← score_normalize c now it, ← points_normalize c now it] at hmatched hunmatched hunscored
  exact ⟨hmatched, hunmatched, hunscored⟩

/-- A prepared item has the points that its host gives it. -/
theorem prepare_hasPoints (c : Config) (hosts : List String) (now : Instant) (it : Item) :
    (it.prepare c hosts now).HasPoints c.historyPenalty (isVisited hosts it = true) :=
  (it.weigh_hasPoints c hosts).normalize c now

end Item

/-! ## What a provider hands over -/

namespace HistoryProvider

theorem recentHosts_of_ok {p : HistoryProvider} {limit : Nat} {urls : List String}
    (h : p.recentUrls limit = .ok urls) :
    p.recentHosts limit =
      (hostsOfUrls urls, [.event (.historyHosts p.name (hostsOfUrls urls).length)]) := by
  rw [recentHosts, h]

theorem recentHosts_of_error {p : HistoryProvider} {limit : Nat} {e : String}
    (h : p.recentUrls limit = .error e) :
    p.recentHosts limit = ([], [.event (.historyError p.name e), .count .historyErrors 1]) := by
  rw [recentHosts, h]

end HistoryProvider

namespace Assembler

variable {σ : Type} (a : Assembler σ) (enabled : Enablement) (hosts : List String)
  (now : Instant) (items : List Item)

/-- What a feed lists is an item of the snapshot, prepared. -/
theorem exists_prepare_of_mem_items (hsh : a.shuffler.Permutes) {it : Item}
    (h : it ∈ (a.assemble enabled hosts now items).1.feed.items) :
    ∃ raw ∈ items, it = raw.prepare a.config hosts now := by
  have hmem := (items_perm a enabled hosts now items hsh).mem_iff.mp
    (List.mem_append_left _ (List.mem_append_left _ h))
  obtain ⟨raw, hraw, rfl⟩ := List.mem_map.mp hmem
  exact ⟨raw, (List.mem_filter.mp hraw).1, rfl⟩

/-- What a feed lists has the points that its host gives it. -/
theorem hasPoints_of_mem_items (hsh : a.shuffler.Permutes) {it : Item}
    (h : it ∈ (a.assemble enabled hosts now items).1.feed.items) :
    it.HasPoints a.config.historyPenalty (isVisited hosts it = true) := by
  obtain ⟨raw, -, rfl⟩ := a.exists_prepare_of_mem_items enabled hosts now items hsh h
  have hpoints := raw.prepare_hasPoints a.config hosts now
  have hurl : isVisited hosts (raw.prepare a.config hosts now) = isVisited hosts raw := by
    rw [isVisited, isVisited, Item.url_prepare]
  rw [hurl]
  exact hpoints

/-- An assembly itself counts no errors of the history. -/
theorem total_historyErrors_assemble :
    Signal.total .historyErrors (a.assemble enabled hosts now items).1.signals = 0 := by
  simp only [assemble, PageRun.signals, rankSignals, Signal.total_append]
  split <;> rfl

/-- With the URLs that a provider returns, an assembly is the one for their hosts. -/
theorem assembleWithHistory_of_ok {p : HistoryProvider} {urls : List String}
    (h : p.recentUrls a.config.historyMaxResults = .ok urls) :
    let plain := a.assemble enabled (hostsOfUrls urls) now items
    let reported := [.event (.historyHosts p.name (hostsOfUrls urls).length)]
    a.assembleWithHistory enabled p now items =
      ({ plain.1 with signals := reported ++ plain.1.signals }, plain.2) := by
  intro plain reported
  rw [assembleWithHistory, HistoryProvider.recentHosts_of_ok h]

/-- With a provider that fails, an assembly is the one for no hosts. -/
theorem assembleWithHistory_of_error {p : HistoryProvider} {e : String}
    (h : p.recentUrls a.config.historyMaxResults = .error e) :
    let plain := a.assemble enabled [] now items
    let reported := [.event (.historyError p.name e), .count .historyErrors 1]
    a.assembleWithHistory enabled p now items =
      ({ plain.1 with signals := reported ++ plain.1.signals }, plain.2) := by
  intro plain reported
  rw [assembleWithHistory, HistoryProvider.recentHosts_of_error h]

/-- Only as many URLs of a fixed list count as are asked for. -/
theorem assembleWithHistory_ofUrls_congr {urls urls' : List String}
    (h : urls.take a.config.historyMaxResults = urls'.take a.config.historyMaxResults) :
    a.assembleWithHistory enabled (.ofUrls urls) now items =
      a.assembleWithHistory enabled (.ofUrls urls') now items := by
  have hurls : (HistoryProvider.ofUrls urls).recentUrls a.config.historyMaxResults =
      .ok (urls'.take a.config.historyMaxResults) := congrArg Except.ok h
  have hurls' : (HistoryProvider.ofUrls urls').recentUrls a.config.historyMaxResults =
      .ok (urls'.take a.config.historyMaxResults) := rfl
  rw [a.assembleWithHistory_of_ok enabled now items hurls,
    a.assembleWithHistory_of_ok enabled now items hurls']
  rfl

end Assembler

/-- The browsing history decides nothing but whether the penalty is subtracted. With a provider that
returns some URLs, a feed is the one for the hosts of these URLs, and the points of a listed item are
its score, less the penalty if its URL has a host and one of these URLs has the same: always if
its own URL was visited and has a host, never if its URL has no host. Of a fixed list of URLs only
as many count as are asked for. With a provider that fails, the feed and the next state are those
of an assembly without history, points are scores, and one more error is counted. -/
theorem history_signal {σ : Type} (c : Config) (sh : Shuffler σ) (s : σ) (enabled : Enablement)
    (now : Instant) (items : List Item) :
    let a := Assembler.ofConfig c sh s
    let informed := fun p => a.assembleWithHistory enabled p now items
    let plain := fun hosts => a.assemble enabled hosts now items
    (∀ (p : HistoryProvider) (urls : List String),
      p.recentUrls c.historyMaxResults = .ok urls →
      (informed p).1.feed = (plain (hostsOfUrls urls)).1.feed ∧
        (informed p).2 = (plain (hostsOfUrls urls)).2 ∧
        Signal.total .historyErrors (informed p).1.signals = 0 ∧
        (sh.Permutes → ∀ it ∈ (informed p).1.feed.items,
          it.HasPoints c.sanitized.historyPenalty (it.SharesHost urls) ∧
            (it.url ∈ urls → hostOf? it.url ≠ none →
              it.points = it.score.map (· - c.sanitized.historyPenalty)) ∧
            (hostOf? it.url = none → it.points = it.score))) ∧
    (∀ urls urls' : List String,
      urls.take c.historyMaxResults = urls'.take c.historyMaxResults →
      informed (.ofUrls urls) = informed (.ofUrls urls')) ∧
    (∀ (p : HistoryProvider) (e : String),
      p.recentUrls c.historyMaxResults = .error e →
      (informed p).1.feed = (plain []).1.feed ∧ (informed p).2 = (plain []).2 ∧
        (sh.Permutes → ∀ it ∈ (informed p).1.feed.items, it.points = it.score) ∧
        ∀ before : List Signal,
          Signal.total .historyErrors (before ++ (informed p).1.signals) =
            Signal.total .historyErrors before + 1) := by
  intro a informed plain
  refine ⟨?_, ?_, ?_⟩
  · intro p urls hurls
    have hinformed := a.assembleWithHistory_of_ok enabled now items hurls
    simp only [informed, hinformed]
    refine ⟨rfl, rfl, ?_, ?_⟩
    · rw [Signal.total_append, a.total_historyErrors_assemble]
      rfl
    · intro hsh it hit
      have hpoints := a.hasPoints_of_mem_items enabled _ now items hsh hit
      rw [isVisited_hostsOfUrls_iff] at hpoints
      refine ⟨hpoints, ?_, ?_⟩
      · intro hvisited hhost
        obtain ⟨host, hurl⟩ := Option.ne_none_iff_exists'.mp hhost
        exact hpoints.of_matched ⟨host, hurl, it.url, hvisited, hurl⟩
      · intro hnone
        apply hpoints.of_unmatched
        rintro ⟨host, hurl, -⟩
        rw [hnone] at hurl
        cases hurl
  · intro urls urls' htake
    exact a.assembleWithHistory_ofUrls_congr enabled now items htake
  · intro p e he
    have hinformed := a.assembleWithHistory_of_error enabled now items he
    simp only [informed, hinformed]
    refine ⟨rfl, rfl, ?_, ?_⟩
    · intro hsh it hit
      have hpoints := a.hasPoints_of_mem_items enabled _ now items hsh hit
      exact hpoints.of_unmatched (by simp [isVisited_nil])
    · intro before
      rw [Signal.total_append, Signal.total_append, a.total_historyErrors_assemble]
      rfl

/-- An article of the lead category with a score, on a host with a port. -/
def sampleVisit : Item :=
  (((Item.article "lead" "news://today:8080/1").withCategory "Top News").withPublisher "on"
    "On").withScore .zero

theorem history_signal_sample :
    let c : Config := { historyMaxResults := 2 }
    let a := Assembler.ofConfig c Shuffler.reversal ()
    let informed := fun p =>
      a.assembleWithHistory sampleEnablement p Instant.epoch [sampleVisit]
    let visited := ["nowhere", "news://today:8080/2"]
    let failing : HistoryProvider := ⟨"failing", fun _ => .error "locked"⟩
    Shuffler.reversal.Permutes ∧ sampleVisit.SharesHost visited ∧
      informed (.ofUrls (visited ++ ["news://today/"])) = informed (.ofUrls visited) ∧
      (∃ it ∈ (informed (.ofUrls visited)).1.feed.items,
        it.points = some (.zero - c.sanitized.historyPenalty)) ∧
      (∃ it ∈ (informed failing).1.feed.items, it.points = some .zero) ∧
      Signal.total .historyErrors (informed failing).1.signals = 1 := by
  intro c a informed visited failing
  have hsh : Shuffler.reversal.Permutes := Shuffler.reversal_permutes
  have hshares : sampleVisit.SharesHost visited :=
    ⟨"today:8080", by decide, "news://today:8080/2", by decide, by decide⟩
  obtain ⟨hok, htake, herror⟩ := history_signal c Shuffler.reversal () sampleEnablement
    Instant.epoch [sampleVisit]
  obtain ⟨hfeed, -, -, hpoints⟩ := hok (.ofUrls visited) visited rfl
  obtain ⟨hfeed', -, hpoints', htotal⟩ := herror failing "locked" rfl
  -- the only article there is has the lead category, so it is featured
  have hlisted : ∀ hosts, ∃ it ∈ (a.assemble sampleEnablement hosts Instant.epoch
      [sampleVisit]).1.feed.items, it = sampleVisit.prepare a.config hosts Instant.epoch := by
    intro hosts
    have hsome := (a.featured_isSome_iff sampleEnablement hosts Instant.epoch [sampleVisit]
      hsh).mpr ⟨sampleVisit, by decide, by decide, by decide⟩
    obtain ⟨it, hit⟩ := Option.isSome_iff_exists.mp hsome
    have hmem : it ∈ (a.assemble sampleEnablement hosts Instant.epoch
        [sampleVisit]).1.feed.items := by
      simp [Feed.items, hit]
    obtain ⟨raw, hraw, hprepared⟩ := a.exists_prepare_of_mem_items _ _ _ _ hsh hmem
    rw [List.mem_singleton.mp hraw] at hprepared
    exact ⟨it, hmem, hprepared⟩
  refine ⟨hsh, hshares, htake _ _ rfl, ?_, ?_, ?_⟩
  · obtain ⟨it, hit, hprepared⟩ := hlisted (hostsOfUrls visited)
    have hmem : it ∈ (informed (.ofUrls visited)).1.feed.items := by
      rw [hfeed]
      exact hit
    have hurl : it.url = sampleVisit.url := by rw [hprepared, Item.url_prepare]
    have hscore : it.score = some .zero := by rw [hprepared, Item.score_prepare]; rfl
    have hmatched : it.SharesHost visited := by
      rw [Item.SharesHost, hurl]
      exact hshares
    exact ⟨it, hmem, (hpoints hsh it hmem).1.matched .zero hscore hmatched⟩
  · obtain ⟨it, hit, hprepared⟩ := hlisted []
    have hmem : it ∈ (informed failing).1.feed.items := by
      rw [hfeed']
      exact hit
    have hscore : it.score = some .zero := by rw [hprepared, Item.score_prepare]; rfl
    exact ⟨it, hmem, (hpoints' hsh it hmem).trans hscore⟩
  · exact htotal []

end Newsfeed
