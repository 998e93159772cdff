import Mathlib.Logic.Function.Iterate
import Newsfeed.Proofs.Sides

/-! # The ceiling of a run

The ceiling ends a run from outside: no page knows of it. So a higher ceiling can only add pages
behind those of a lower one, and a run that the ceiling has ended can be taken up again from the
pools and the queues that it has left.

* `drawPages_add`: a run under two ceilings, one after the other;
* `drawPages_take`: under a lower ceiling, a run has the first of its pages;
* `ceiling_appends`: both facts, the second for assembled feeds.
-/

namespace Newsfeed

/-- The settings with another ceiling. -/
def Config.withMaxPages (c : Config) (n : Nat) : Config := { c with maxPages := n }

theorem Rotation.iterate_advance (r : Rotation) (n : Nat) : Rotation.advance^[n] r = r.skip n := by
  induction n with
  | zero => rfl
  | succ n ih =>
      rw [Function.iterate_succ_apply', ih]
      simp [advance, skip]

section Run

variable (c : Config) (now : Instant) (rotation : Rotation) (pools : Pools)

/-- No page knows of the ceiling. -/
theorem pageStep_withMaxPages (n : Nat) :
    pageStep (c.withMaxPages n) now rotation = pageStep c now rotation :=
  rfl

/-- A run under the sum of two ceilings is a run under the first, resumed under the second. -/
theorem drawPages_add (m k : Nat) :
    let first := drawPages c now m rotation pools
    let second := drawPages c now k (rotation.skip m) first.left
    (drawPages c now (m + k) rotation pools).pages = first.pages ++ second.pages ∧
      (drawPages c now (m + k) rotation pools).left = second.left := by
  -- whether a page can be drawn depends on the pools, not on its number
  have hfail : ∀ i j left, pageStep c now rotation i left = none →
      pageStep c now rotation j left = none := by
    intro i j left h
    exact pageStep_eq_none_iff.mpr (pageStep_eq_none_iff.mp h)
  have hrun := loop_add hfail m k pools
  rw [pageStep_skip] at hrun
  simp only [drawPages_pages_eq, drawPages_left_eq, hrun, and_self]

/-- Under a lower ceiling, a run has the first of its pages. -/
theorem drawPages_take {m n : Nat} (hmn : m ≤ n) :
    (drawPages c now m rotation pools).pages =
      (drawPages c now n rotation pools).pages.take m := by
  rw [drawPages_pages_eq, drawPages_pages_eq]
  exact loop_take hmn pools

theorem drawPages_withMaxPages (n ceiling : Nat) :
    (drawPages (c.withMaxPages n) now ceiling rotation pools).pages =
        (drawPages c now ceiling rotation pools).pages ∧
      (drawPages (c.withMaxPages n) now ceiling rotation pools).left =
        (drawPages c now ceiling rotation pools).left := by
  simp only [drawPages_pages_eq, drawPages_left_eq, pageStep_withMaxPages, and_self]

end Run

/-- A ceiling within the limits is kept as it is. -/
theorem Config.sanitized_withMaxPages (c : Config) {n : Nat} (hpos : 1 ≤ n) (hle : n ≤ pageCeiling) :
    (c.withMaxPages n).sanitized = c.sanitized.withMaxPages n := by
  have hsize : positiveSize n (Config.maxPages {}) pageCeiling = n := by
    unfold positiveSize
    split <;> omega
  exact congrArg c.sanitized.withMaxPages hsize

/-- The pages of an assembly under a ceiling are a run from pools and queues that do not depend on
it; and neither do the featured items. -/
theorem Assembler.assemble_withMaxPages {σ : Type} (a : Assembler σ) (enabled : Enablement)
    (hosts : List String) (now : Instant) (items : List Item) (n : Nat) :
    let feed := (a.assemble enabled hosts now items).1.feed
    let limited : Assembler σ := { a with config := a.config.withMaxPages n }
    let rotation := Rotation.ofItems a.config.leadCategory (a.shuffled enabled hosts now items)
      (a.parts enabled hosts now items).deals
    (limited.assemble enabled hosts now items).1.feed =
      { feed with
        pages := (drawPages a.config now n rotation (a.pagePools enabled hosts now items)).pages } := by
  intro feed limited rotation
  have hpages := (drawPages_withMaxPages a.config now rotation
    (a.pagePools enabled hosts now items) n n).1
  rw [← hpages]
  rfl

/-- A run under a ceiling of `m` pages, taken up again under a ceiling of `k` pages from the pools
that it has left and the queues `m` steps on, gives the pages of one run under a ceiling of `m + k`
and leaves the same. So raising the ceiling of an assembly only adds pages at the end: the featured
items are the same, and the pages under the lower ceiling are the first ones under the higher. -/
theorem ceiling_appends (c : Config) (now : Instant) :
    (∀ (rotation : Rotation) (pools : Pools) (m k : Nat),
      let run := fun (n : Nat) => drawPages (c.withMaxPages n) now n
      let first := run m rotation pools
      let second := run k (Rotation.advance^[m] rotation) first.left
      first.pages ++ second.pages = (run (m + k) rotation pools).pages ∧
        second.left = (run (m + k) rotation pools).left) ∧
    (∀ {σ : Type} (sh : Shuffler σ) (s : σ) (enabled : Enablement) (hosts : List String)
      (items : List Item) (m n : Nat), 1 ≤ m → m ≤ n → n ≤ Config.pageCeiling →
      let feed := fun (ceiling : Nat) =>
        ((Assembler.ofConfig (c.withMaxPages ceiling) sh s).assemble enabled hosts now items).1.feed
      (feed m).featuredArticle = (feed n).featuredArticle ∧
        (feed m).featuredDeals = (feed n).featuredDeals ∧
        (feed m).pages = (feed n).pages.take (min m (feed n).pages.length)) := by
  constructor
  · intro rotation pools m k run first second
    obtain ⟨hpages, hleft⟩ := drawPages_add c now rotation pools m k
    simp only [second, first, run, drawPages_withMaxPages, Rotation.iterate_advance, hpages, hleft,
      and_self]
  · intro σ sh s enabled hosts items m n hm hmn hn feed
    let a := Assembler.ofConfig c sh s
    -- the two assemblers are one, but for the ceiling
    have hfeed : ∀ ceiling, 1 ≤ ceiling → ceiling ≤ Config.pageCeiling → feed ceiling =
        (({ a with config := a.config.withMaxPages ceiling } : Assembler σ).assemble
          enabled hosts now items).1.feed := by
      intro ceiling hpos hle
      simp only [feed, Assembler.ofConfig, c.sanitized_withMaxPages hpos hle]
      rfl
    rw [hfeed m hm (Nat.le_trans hmn hn), hfeed n (Nat.le_trans hm hmn) hn]
    simp only [Assembler.assemble_withMaxPages, true_and]
    rw [drawPages_take _ _ _ _ hmn, List.take_eq_take_iff]
    simp

theorem ceiling_appends_sample :
    let c : Config := { headlinesPerPage := 1, groupSize := 0 }
    let feed := fun (ceiling : Nat) =>
      ((Assembler.ofConfig (c.withMaxPages ceiling) Shuffler.identity ()).assemble sampleEnablement
        [] Instant.epoch [sampleHeadline, sampleOtherHeadline]).1.feed
    1 ≤ 2 ∧ 2 ≤ Config.pageCeiling ∧ (feed 2).pages.length = 2 ∧
      (feed 1).pages = (feed 2).pages.take 1 := by
  intro c feed
  have hlimit : 2 ≤ Config.pageCeiling := by decide
  have hlength : (feed 2).pages.length = 2 := by
    have hfeed := Assembler.assemble_feed_of_sorted
      (Assembler.ofConfig (c.withMaxPages 2) Shuffler.identity ()) sampleEnablement []
      Instant.epoch [sampleHeadline, sampleOtherHeadline] (by decide)
    simp only [feed, hfeed]
    decide
  have hpages := ((ceiling_appends c Instant.epoch).2 Shuffler.identity () sampleEnablement []
    [sampleHeadline, sampleOtherHeadline] 1 2 (by decide) (by decide) hlimit).2.2
  refine ⟨by decide, hlimit, hlength, ?_⟩
  rw [show min 1 (feed 2).pages.length = 1 by omega] at hpages
  exact hpages

end Newsfeed
