import Mathlib.Logic.Relation
import Newsfeed.Proofs.PageCount

/-! # The end of every run

A run has no end built in: it goes on as long as pages can be drawn, and the ceiling may be out of
reach. What ends it is the number of images that are left, which every page makes smaller. The run
is told here once more, turn by turn and without a bound, so that its end can be proved.

* `drawPage_eq_none_iff`: when there is no next page; `drawPage_none`: nothing is drawn then;
* `IsPageStep.images_left_lt`: every page takes an image;
* `Turn`: one turn of a run, `turn_wellFounded`: turns cannot go on for ever;
* `turns_drawPages`, `not_turn_drawPages`: a run is a row of turns, and no turn can follow it;
* `generation_ends`: failure changes nothing, and every run ends.
-/

namespace Newsfeed

/-! ## One page -/

/-- No headline is drawn if there is no room for one or no image to show. -/
theorem headlineDraw_eq_nil_iff {c : Config} {articles : List Item} :
    (headlineDraw id c articles).1 = [] ↔
      c.headlinesPerPage = 0 ∨ ∀ it ∈ articles, it.hasImage = false := by
  have htaken : (headlineDraw id c articles).1 =
      (articles.filter Item.hasImage).take c.headlinesPerPage :=
    Pool.draw_taken Item.hasImage c.headlinesPerPage articles
  rw [htaken, List.take_eq_nil_iff, List.filter_eq_nil_iff]
  simp only [Bool.not_eq_true]

/-- There is no next page if there is no room for a headline or no image to show. -/
theorem drawPage_eq_none_iff {c : Config} {now : Instant} {focus : Focus} {pools : Pools} :
    (drawPage c now focus pools).1 = none ↔
      c.headlinesPerPage = 0 ∨ ∀ it ∈ pools.articles.items, it.hasImage = false := by
  have hheadlines : (fillSlots id c now focus.category pools.articles.items).1.headlines =
      (headlineDraw id c pools.articles.items).1 := rfl
  rw [drawPage_eq, ← headlineDraw_eq_nil_iff, ← hheadlines, ← List.isEmpty_iff]
  dsimp only
  split
  · rename_i hnone
    exact ⟨fun _ => hnone, fun _ => rfl⟩
  · rename_i hsome
    exact ⟨fun h => (Option.some_ne_none _ h).elim, fun h => (hsome h).elim⟩

/-- Every page takes an image. -/
theorem IsPageStep.images_left_lt {c : Config} {now : Instant} {focus : Focus} {pools left : Pools}
    {page : Page} (h : IsPageStep c now focus pools page left) : left.images < pools.images := by
  have hpos := List.length_pos_iff.mpr h.headlines_ne_nil
  have hlength := h.length_headlines
  have hle := h.images_left_le
  omega

/-- What the focus of a page leaves open of its deals is filled from the front; the focus itself
never takes more than there is room for. -/
theorem exists_missing_deals (c : Config) (focus : Option String) (deals : Pool Item) :
    ∃ missing, (focusDraw c focus deals).1.length + missing = c.dealsPerPage ∧
      drawDeals c focus deals =
        ((focusDraw c focus deals).1 ++ (focusDraw c focus deals).2.take missing,
          ⟨(focusDraw c focus deals).2.drop missing⟩) := by
  have hroom : (focusDraw c focus deals).1.length ≤ c.dealsPerPage := Pool.length_draw_le _ _ _
  exact ⟨_, Nat.add_sub_cancel' hroom, drawDeals_eq c focus deals⟩

/-- Drawing a page puts nothing into a pool. -/
theorem drawPage_sublist (c : Config) (now : Instant) (focus : Focus) (pools : Pools) :
    (drawPage c now focus pools).2.articles.items.Sublist pools.articles.items ∧
      (drawPage c now focus pools).2.deals.items.Sublist pools.deals.items := by
  cases hdraw : drawPage c now focus pools with
  | mk page? left =>
      cases page? with
      | none =>
          rw [drawPage_none hdraw]
          exact ⟨.refl _, .refl _⟩
      | some page =>
          have hstep := isPageStep_of_drawPage hdraw
          exact ⟨hstep.articles_sublist, hstep.deals_sublist⟩

/-! ## Turn by turn -/

/-- Where a run stands between two pages: what it has drawn, the queues and the pools. -/
structure RunState where
  pages : List Page
  rotation : Rotation
  pools : Pools

/-- One turn of a run: below the ceiling, the next page is drawn with the focus of the queues. -/
inductive Turn (c : Config) (now : Instant) (ceiling : Nat) : RunState → RunState → Prop where
  | page {pages : List Page} {rotation : Rotation} {pools left : Pools} {page : Page} :
      pages.length < ceiling → drawPage c now rotation.focus pools = (some page, left) →
      Turn c now ceiling ⟨pages, rotation, pools⟩ ⟨pages ++ [page], rotation.advance, left⟩

section Turns

variable {c : Config} {now : Instant} {ceiling : Nat} {s t : RunState}

/-- Every turn takes an image. -/
theorem Turn.images_lt (h : Turn c now ceiling s t) : t.pools.images < s.pools.images := by
  cases h with
  | page _ hdraw => exact (isPageStep_of_drawPage hdraw).images_left_lt

/-- A turn pays for its page with an image. -/
theorem Turn.length_add_images_le (h : Turn c now ceiling s t) :
    t.pages.length + t.pools.images ≤ s.pages.length + s.pools.images := by
  have hlt := h.images_lt
  cases h with
  | page _ _ =>
      simp only [List.length_append, List.length_singleton] at hlt ⊢
      omega

/-- Turns cannot go on for ever, whatever the settings and the ceiling. -/
theorem turn_wellFounded (c : Config) (now : Instant) (ceiling : Nat) :
    WellFounded fun t s => Turn c now ceiling s t :=
  Subrelation.wf Turn.images_lt (InvImage.wf (fun s : RunState => s.pools.images) Nat.lt_wfRel.wf)

/-- All pages of a run are paid for with images. -/
theorem turns_length_add_images_le (h : Relation.ReflTransGen (Turn c now ceiling) s t) :
    t.pages.length + t.pools.images ≤ s.pages.length + s.pools.images := by
  induction h with
  | refl => exact Nat.le_refl _
  | tail _ hturn ih => exact hturn.length_add_images_le.trans ih

end Turns

section Run

variable (c : Config) (now : Instant) (ceiling : Nat) (rotation : Rotation) (pools : Pools)

/-- Where a run stands after its last page. -/
def lastState : RunState :=
  ⟨(drawPages c now ceiling rotation pools).pages,
    rotation.skip (drawPages c now ceiling rotation pools).pages.length,
    (drawPages c now ceiling rotation pools).left⟩

theorem Rotation.focus_skip (r : Rotation) (n : Nat) : (r.skip n).focus = r.focusAt n := by
  rw [← Rotation.focusAt_zero, Rotation.focusAt_skip, Nat.zero_add]

theorem Rotation.advance_skip (r : Rotation) (n : Nat) : (r.skip n).advance = r.skip (n + 1) := by
  simp [Rotation.advance, Rotation.skip]

/-- Page `i` of a run is drawn in a turn of its own. -/
theorem turn_of_getElem? {i : Nat} {page : Page}
    (hi : (drawPages c now ceiling rotation pools).pages[i]? = some page) :
    Turn c now ceiling
      ⟨(drawPages c now ceiling rotation pools).pages.take i, rotation.skip i,
        poolsAt c now rotation pools i⟩
      ⟨(drawPages c now ceiling rotation pools).pages.take (i + 1), rotation.skip (i + 1),
        poolsAt c now rotation pools (i + 1)⟩ := by
  have hlt := (List.getElem?_eq_some_iff.mp hi).1
  have hceiling := drawPages_length_le c now ceiling rotation pools
  have hdraw := drawPage_of_pageStep (pageStep_of_getElem? c now ceiling rotation pools hi)
  rw [← Rotation.focus_skip] at hdraw
  rw [List.take_add_one, hi, Option.toList_some, ← Rotation.advance_skip]
  apply Turn.page _ hdraw
  rw [List.length_take]
  omega

/-- A run is a row of turns. -/
theorem turns_drawPages :
    Relation.ReflTransGen (Turn c now ceiling) ⟨[], rotation, pools⟩
      (lastState c now ceiling rotation pools) := by
  have hturns := poolsAt_induction c now ceiling rotation pools
    (fun i left => Relation.ReflTransGen (Turn c now ceiling) ⟨[], rotation, pools⟩
      ⟨(drawPages c now ceiling rotation pools).pages.take i, rotation.skip i, left⟩)
    .refl (fun i page hi hturns => hturns.tail (turn_of_getElem? c now ceiling rotation pools hi))
    (Nat.le_refl _)
  rw [List.take_length, poolsAt_length] at hturns
  exact hturns

/-- Below the ceiling, the attempt that has ended a run has drawn nothing. -/
theorem drawPage_left (h : (drawPages c now ceiling rotation pools).pages.length < ceiling)
    (focus : Focus) :
    drawPage c now focus (drawPages c now ceiling rotation pools).left =
      (none, (drawPages c now ceiling rotation pools).left) := by
  have hstuck := drawPages_stuck c now ceiling rotation pools h
  have hnone : (drawPage c now focus (drawPages c now ceiling rotation pools).left).1 = none :=
    drawPage_eq_none_iff.mpr (headlineDraw_eq_nil_iff.mp hstuck)
  exact Prod.ext hnone (drawPage_none (Prod.ext hnone rfl))

/-- No turn can follow a run. -/
theorem not_turn_drawPages (t : RunState) :
    ¬ Turn c now ceiling (lastState c now ceiling rotation pools) t := by
  intro hturn
  cases hturn with
  | page hlt hdraw =>
      rw [drawPage_left c now ceiling rotation pools hlt] at hdraw
      cases hdraw

end Run

/-- A page fails cleanly, and every run ends. Whatever the settings, there is no next page if and
only if there is no room for a headline or no article with an image, and then nothing is drawn. A
page takes at least one image, and no pool grows. The top-up of the deals fills exactly the room that
the focus has left. So turns cannot go on for ever: a run is a row of turns that no turn can follow,
it has no more pages than the ceiling allows and than there are images, and if it ends below the
ceiling, its last attempt has left the pools as they were. -/
theorem generation_ends (c : Config) (now : Instant) :
    (∀ (focus : Focus) (pools : Pools),
      let drawn := drawPage c now focus pools
      (drawn.1 = none ↔
        c.headlinesPerPage = 0 ∨ ∀ it ∈ pools.articles.items, it.hasImage = false) ∧
      (drawn.1 = none → drawn.2 = pools) ∧
      (∀ page, drawn.1 = some page → drawn.2.images < pools.images) ∧
      drawn.2.articles.items.Sublist pools.articles.items ∧
      drawn.2.deals.items.Sublist pools.deals.items) ∧
    (∀ (focus : Option String) (deals : Pool Item),
      let focused := focusDraw c focus deals
      ∃ missing, focused.1.length + missing = c.dealsPerPage ∧
        drawDeals c focus deals =
          (focused.1 ++ focused.2.take missing, ⟨focused.2.drop missing⟩)) ∧
    ∀ ceiling : Nat, WellFounded (fun t s => Turn c now ceiling s t) ∧
      ∀ (rotation : Rotation) (pools : Pools),
        let run := drawPages c now ceiling rotation pools
        let last := lastState c now ceiling rotation pools
        Relation.ReflTransGen (Turn c now ceiling) ⟨[], rotation, pools⟩ last ∧
          (∀ t, ¬ Turn c now ceiling last t) ∧
          run.pages.length ≤ min ceiling pools.images ∧
          (run.pages.length < ceiling →
            drawPage c now last.rotation.focus run.left = (none, run.left)) := by
  refine ⟨?_, exists_missing_deals c, ?_⟩
  · intro focus pools drawn
    refine ⟨drawPage_eq_none_iff, ?_, ?_, drawPage_sublist c now focus pools⟩
    · intro hnone
      exact drawPage_none (Prod.ext hnone rfl)
    · intro page hsome
      exact (isPageStep_of_drawPage (Prod.ext hsome rfl)).images_left_lt
  · intro ceiling
    refine ⟨turn_wellFounded c now ceiling, ?_⟩
    intro rotation pools run last
    have hturns := turns_drawPages c now ceiling rotation pools
    have hpaid : run.pages.length + run.left.images ≤ 0 + pools.images :=
      turns_length_add_images_le hturns
    refine ⟨hturns, not_turn_drawPages c now ceiling rotation pools, ?_, ?_⟩
    · exact le_min (drawPages_length_le c now ceiling rotation pools) (by omega)
    · intro hbelow
      exact drawPage_left c now ceiling rotation pools hbelow _

/-- Settings that nothing has sanitized: no groups, and the rest as large as it can be. -/
def boundlessConfig : Config :=
  { headlinesPerPage := 0xffffffffffffffff, groupSize := 0, dealsPerPage := 0xffffffffffffffff,
    recentWindowHours := 0x7fffffffffffffff, maxPages := 0xffffffffffffffff }

theorem generation_ends_sample :
    let run := drawPages boundlessConfig Instant.epoch boundlessConfig.maxPages {} samplePool
    let noImage : Pools := ⟨⟨[Item.article "b" ""]⟩, ⟨[Item.deal "d" "" ""]⟩⟩
    run.pages.length ≤ 1 ∧ run.pages.length < boundlessConfig.maxPages ∧
      (∃ focus, drawPage boundlessConfig Instant.epoch focus run.left = (none, run.left)) ∧
      drawPage boundlessConfig Instant.epoch ⟨none, none⟩ noImage = (none, noImage) ∧
      (∃ page, (drawPage boundlessConfig Instant.epoch ⟨none, none⟩ samplePool).1 = some page ∧
        (drawPage boundlessConfig Instant.epoch ⟨none, none⟩ samplePool).2.images < 1) := by
  intro run noImage
  obtain ⟨hpage, -, hrun⟩ := generation_ends boundlessConfig Instant.epoch
  obtain ⟨-, -, hlength, hlast⟩ := (hrun boundlessConfig.maxPages).2 {} samplePool
  have himages : samplePool.images = 1 := by decide
  have hone : run.pages.length ≤ 1 := by
    have hle := hlength.trans (Nat.min_le_right _ _)
    rwa [himages] at hle
  have hmax : 1 < boundlessConfig.maxPages := by decide
  have hbelow : run.pages.length < boundlessConfig.maxPages := by omega
  refine ⟨hone, hbelow, ⟨_, hlast hbelow⟩, ?_, ?_⟩
  · obtain ⟨hiff, hkept, -⟩ := hpage ⟨none, none⟩ noImage
    have hnone := hiff.mpr (Or.inr (by decide))
    exact Prod.ext hnone (hkept hnone)
  · obtain ⟨hiff, -, htaken, -⟩ := hpage ⟨none, none⟩ samplePool
    cases hdrawn : (drawPage boundlessConfig Instant.epoch ⟨none, none⟩ samplePool).1 with
    | none =>
        have hno : ¬ (boundlessConfig.headlinesPerPage = 0 ∨
            ∀ it ∈ samplePool.articles.items, it.hasImage = false) := by decide
        exact (hno (hiff.mp hdrawn)).elim
    | some page =>
        rw [← himages]
        exact ⟨page, rfl, htaken page hdrawn⟩

end Newsfeed
