import Newsfeed.Proofs.Settings

/-! # Recency

An article is recent if it was published less than a window away from the present, before or after.
Both sides of this comparison are counted in whole seconds. Since fractions are dropped toward zero
and windows are whole hours, nothing is lost by this: the comparison is that of the nanoseconds.

* `natAbs_tdiv_lt_iff`: dropping a fraction toward zero does not move a size across a whole number;
* `isWithin_ofSeconds_iff`: the test in nanoseconds, with `isWithin_exchange` for its symmetry;
* `Config.recentWindow_of_isMeasurable`, `Config.recentWindow_of_not_isMeasurable`: the window in
  hours, or two days if it cannot be measured;
* `drawPage_recent`: the recent articles of a page, in these terms;
* `recency_exact`: the test and the slot in one statement.
-/

namespace Newsfeed

/-! ## Whole seconds -/

/-- A size stays on its side of a whole number when its fraction is dropped. -/
theorem natAbs_tdiv_lt_iff {unit : Nat} (hunit : 0 < unit) (n bound : Int) :
    ((n.tdiv unit).natAbs : Int) < bound ↔ (n.natAbs : Int) < bound * unit := by
  have hsize : (n.tdiv unit).natAbs = n.natAbs / unit := Int.natAbs_tdiv n unit
  rw [hsize, Int.natCast_ediv]
  exact Int.ediv_lt_iff_lt_mul (by omega)

/-- Published less than a window before or after the present, to the nanosecond. -/
def Item.PublishedWithin (now : Instant) (window : Span) (it : Item) : Prop :=
  ∃ t, it.publishedAt = some t ∧ ((now.since t).nanos.natAbs : Int) < window.nanos

/-- For a window of whole seconds the test is exact. -/
theorem isWithin_ofSeconds_iff (now : Instant) (seconds : Int) (it : Item) :
    isWithin now (.ofSeconds seconds 0) it = true ↔
      it.PublishedWithin now (.ofSeconds seconds 0) := by
  have hexact : ∀ t, ((now.secondsApart t : Int) < seconds ↔
      ((now.since t).nanos.natAbs : Int) < (Span.ofSeconds seconds 0).nanos) := by
    intro t
    rw [Span.ofSeconds, Int.add_zero]
    exact natAbs_tdiv_lt_iff (by decide) _ _
  rw [isWithin, Span.wholeSeconds_ofSeconds, Item.PublishedWithin]
  cases hpublished : it.publishedAt with
  | none => simp
  | some t => simp [hexact t]

/-- The present and the publish time have the same part in the test. -/
theorem isWithin_exchange (now t : Instant) (window : Span) (it : Item) :
    isWithin now window { it with publishedAt := some t } =
      isWithin t window { it with publishedAt := some now } := by
  simp only [isWithin, Instant.secondsApart_comm now t]

/-- Nothing lies within a window that is not positive. -/
theorem not_publishedWithin {window : Span} (h : window.nanos ≤ 0) (now : Instant) (it : Item) :
    ¬ it.PublishedWithin now window := by
  rintro ⟨t, -, hlt⟩
  omega

/-! ## The window of a page -/

namespace Config

/-- A window that can be measured is taken as it is. -/
theorem recentWindow_of_isMeasurable {c : Config} (h : Span.IsMeasurable c.recentWindowHours) :
    c.recentWindow = .ofSeconds (c.recentWindowHours * 3600) 0 := by
  rw [recentWindow, Span.ofHours?_of_isMeasurable h, Option.getD_some]

/-- A window that cannot be measured is two days. -/
theorem recentWindow_of_not_isMeasurable {c : Config}
    (h : ¬ Span.IsMeasurable c.recentWindowHours) :
    c.recentWindow = .ofSeconds (48 * 3600) 0 := by
  rw [recentWindow, Span.ofHours?_of_not_isMeasurable h, Option.getD_none, fallbackWindow]

end Config

/-- The articles that the recent slot draws from: what the slots before it leave. -/
def leftForRecent (c : Config) (focus : Option String) (articles : Pool Item) : Pool Item :=
  (drawPublisher c (drawCategory c focus (drawHeadlines c articles).2).2).2

/-- The recent articles of a page are the first ones within the window. -/
theorem drawPage_recent {c : Config} {now : Instant} {focus : Focus} {pools left : Pools}
    {page : Page} (h : drawPage c now focus pools = (some page, left)) :
    page.recent = ((leftForRecent c focus.category pools.articles).items.filter
      (isWithin now c.recentWindow)).take c.recentPerPage := by
  have hdraw : page.recent =
      (drawRecent c now (leftForRecent c focus.category pools.articles)).1 := by
    simp only [drawPage] at h
    split at h
    · cases (Prod.mk.inj h).1
    · obtain rfl := Option.some.inj (Prod.mk.inj h).1
      rfl
  rw [hdraw, drawRecent, Pool.take, Pool.draw_taken]

/-- The test of recency is exact. For a window of whole seconds, which may be negative, an item
passes if and only if it has a publish time less than the window away from the present, to the
nanosecond; the two instants may be exchanged. The recent articles of a page are the first ones of
those left for them that are within the hours of the window, if these can be measured, and within
48 hours if not. So there are none if the hours can be measured and are not positive. -/
theorem recency_exact :
    (∀ (now : Instant) (seconds : Int) (it : Item),
      isWithin now (.ofSeconds seconds 0) it = true ↔
        ∃ t, it.publishedAt = some t ∧
          ((now.since t).nanos.natAbs : Int) < (Span.ofSeconds seconds 0).nanos) ∧
    (∀ (now t : Instant) (window : Span) (it : Item),
      isWithin now window { it with publishedAt := some t } =
        isWithin t window { it with publishedAt := some now }) ∧
    (∀ (c : Config) (now : Instant) (focus : Focus) (pools left : Pools) (page : Page),
      drawPage c now focus pools = (some page, left) →
      let articles := (leftForRecent c focus.category pools.articles).items
      let firstWithin := fun hours : Int =>
        (articles.filter (isWithin now (.ofSeconds (hours * 3600) 0))).take c.recentPerPage
      (Span.IsMeasurable c.recentWindowHours → page.recent = firstWithin c.recentWindowHours) ∧
        (¬ Span.IsMeasurable c.recentWindowHours → page.recent = firstWithin 48) ∧
        (Span.IsMeasurable c.recentWindowHours → c.recentWindowHours ≤ 0 → page.recent = [])) := by
  refine ⟨isWithin_ofSeconds_iff, isWithin_exchange, ?_⟩
  intro c now focus pools left page hpage articles firstWithin
  have hrecent := drawPage_recent hpage
  refine ⟨?_, ?_, ?_⟩
  · intro hmeasurable
    rw [hrecent, Config.recentWindow_of_isMeasurable hmeasurable]
  · intro hnot
    rw [hrecent, Config.recentWindow_of_not_isMeasurable hnot]
  · intro hmeasurable hhours
    have hnanos : (Span.ofSeconds (c.recentWindowHours * 3600) 0).nanos ≤ 0 := by
      simp only [Span.ofSeconds, nanosPerSecond]
      omega
    have hnone : articles.filter (isWithin now c.recentWindow) = [] := by
      apply List.filter_eq_nil_iff.mpr
      intro it _
      rw [Config.recentWindow_of_isMeasurable hmeasurable, isWithin_ofSeconds_iff]
      exact not_publishedWithin hnanos now it
    rw [hrecent, hnone, List.take_nil]

theorem lt_two_nanosPerSecond (nano : Fin 1000000000) : (nano : Nat) < 2 * nanosPerSecond := by
  have h := nano.isLt
  rw [nanosPerSecond]
  omega

/-- A second and some nanoseconds of 1 January 1970. -/
def sampleMoment (second : Fin 86400) (nano : Fin 1000000000) : Instant :=
  { Instant.epoch with
    second, nano
    second_lt := second.isLt
    nano_lt := lt_two_nanosPerSecond nano }

/-- An article at the edge of a window of an hour, and one that is a nanosecond later. -/
def edgeArticle : Item := { Item.article "edge" "" with publishedAt := some (sampleMoment 3600 0) }

def insideArticle : Item :=
  { Item.article "inside" "" with publishedAt := some (sampleMoment 3600 1) }

theorem recency_exact_sample :
    let now := sampleMoment 7200 0
    let pools : Pools :=
      ⟨⟨[(Item.article "headline" "").withImage "image", edgeArticle, insideArticle]⟩, {}⟩
    let recent := fun hours : Int =>
      ((drawPage { recentWindowHours := hours } now ⟨none, none⟩ pools).1.map (·.recent))
    recent 1 = some [insideArticle] ∧
      recent 0x7fffffffffffffff = some [edgeArticle, insideArticle] ∧
      recent (-1) = some [] ∧
      isWithin now (.ofSeconds 3600 0) insideArticle =
        isWithin (sampleMoment 3600 1) (.ofSeconds 3600 0)
          { insideArticle with publishedAt := some now } := by
  intro now pools recent
  obtain ⟨-, hexchange, hslot⟩ := recency_exact
  -- there is a headline, so there is a page whatever the window
  have hpage : ∀ hours : Int, ∃ page left,
      drawPage { recentWindowHours := hours } now ⟨none, none⟩ pools = (some page, left) :=
    fun hours => ⟨_, _, rfl⟩
  refine ⟨?_, ?_, ?_, ?_⟩
  · obtain ⟨page, left, hdraw⟩ := hpage 1
    have hfirst := (hslot _ _ _ _ _ _ hdraw).1 (by simp [Span.IsMeasurable])
    simp only [recent, hdraw, Option.map_some, hfirst]
    decide
  · obtain ⟨page, left, hdraw⟩ := hpage 0x7fffffffffffffff
    have hfirst := (hslot _ _ _ _ _ _ hdraw).2.1 (by simp [Span.IsMeasurable])
    simp only [recent, hdraw, Option.map_some, hfirst]
    decide
  · obtain ⟨page, left, hdraw⟩ := hpage (-1)
    have hnone := (hslot _ _ _ _ _ _ hdraw).2.2 (by simp [Span.IsMeasurable]) (by decide)
    simp only [recent, hdraw, Option.map_some, hnone]
  · exact hexchange now (sampleMoment 3600 1) (.ofSeconds 3600 0) insideArticle

end Newsfeed
