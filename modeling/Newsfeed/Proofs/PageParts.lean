import Newsfeed.Proofs.ArticleSlots
import Newsfeed.Proofs.DealSlot

/-! # The parts of a page

What drawing a page does is said here once: it fills the article slots, draws the deals, and puts
them together, or does nothing at all if no headline is found.

* `ArticleSlots.toPage`: the page made of its slots and its deals;
* `drawPage_eq`: the next page, in these terms;
* `drawPage_none`: a page that cannot be drawn leaves everything in its place.
-/

namespace Newsfeed

/-- The article slots of a finished page. -/
def Page.slots (p : Page) : ArticleSlots Item :=
  ⟨p.headlines, p.categoryItems, p.publisherItems, p.recent⟩

/-- The page with these article slots and deals. A group without articles is left out; the publisher
group has its id and name from its first article. -/
def ArticleSlots.toPage (s : ArticleSlots Item) (focus : Option String) (deals : List Item) :
    Page where
  headlines := s.headlines
  recent := s.recent
  deals := deals
  category := focus.bind fun k => if s.category.isEmpty then none else some ⟨k, s.category⟩
  publisher := s.publisher.head?.map fun a => ⟨a.publisherId, a.publisherName, s.publisher⟩

theorem slots_toPage {s : ArticleSlots Item} {focus : Option String} (deals : List Item)
    (h : focus = none → s.category = []) : (s.toPage focus deals).slots = s := by
  have hcategory : (s.toPage focus deals).categoryItems = s.category := by
    cases focus with
    | none => simp [ArticleSlots.toPage, Page.categoryItems, h rfl]
    | some k => cases hs : s.category <;> simp [ArticleSlots.toPage, Page.categoryItems, hs]
  have hpublisher : (s.toPage focus deals).publisherItems = s.publisher := by
    cases hs : s.publisher <;> simp [ArticleSlots.toPage, Page.publisherItems, hs]
  simp only [Page.slots, hcategory, hpublisher]
  rfl

/-! ## One page -/

theorem drawCategory_eq (c : Config) (focus : Option String) (articles : Pool Item) :
    drawCategory c focus articles =
      let drawn := categoryDraw id c focus articles.items
      (focus.bind fun k => if drawn.1.isEmpty then none else some ⟨k, drawn.1⟩, ⟨drawn.2⟩) := by
  cases focus with
  | none =>
      have hnone : categoryDraw id c none articles.items = ([], articles.items) :=
        Pool.draw_of_forall_not c.groupSize fun _ _ => rfl
      rw [hnone]
      rfl
  | some k =>
      have htest : (fun a : Item => some k == some (id a).category) = fun a => a.category == k := by
        funext a
        simp [eq_comm]
      rw [categoryDraw, htest]
      rfl

/-- The first article with a publisher is also the first article of that publisher. -/
theorem find?_publisher {α : Type} {view : α → Item} {xs : List α} {anchor : α}
    (h : xs.find? (fun a => (view a).hasPublisher) = some anchor) :
    xs.find? (fun a => (view a).publisherId == (view anchor).publisherId) = some anchor := by
  obtain ⟨hanchor, before, after, rfl, hbefore⟩ := List.find?_eq_some_iff_append.mp h
  refine List.find?_eq_some_iff_append.mpr ⟨by simp, before, after, rfl, ?_⟩
  intro a ha
  have hnot := hbefore a ha
  simp only [Item.hasPublisher, bne_iff_ne, Bool.not_eq_true', bne_eq_false_iff_eq] at hanchor hnot
  simpa [hnot] using hanchor.symm

/-- A group that starts with its anchor can take id and name from its first article. -/
theorem publisherGroup_eq {anchor : Item} {items : List Item}
    (h : items ≠ [] → items.head? = some anchor) :
    (if items.isEmpty then none
      else some (⟨anchor.publisherId, anchor.publisherName, items⟩ : PublisherGroup)) =
      items.head?.map fun a => ⟨a.publisherId, a.publisherName, items⟩ := by
  cases items with
  | nil => rfl
  | cons a rest =>
      obtain rfl : a = anchor := by simpa using h
      rfl

theorem drawPublisher_eq (c : Config) (articles : Pool Item) :
    drawPublisher c articles =
      let drawn := publisherDraw id c articles.items
      (drawn.1.head?.map fun a => ⟨a.publisherId, a.publisherName, drawn.1⟩, ⟨drawn.2⟩) := by
  cases hfind : articles.items.find? Item.hasPublisher with
  | none =>
      have hnone : publisherDraw id c articles.items = ([], articles.items) := by
        apply Pool.draw_of_forall_not
        simp [nextPublisher?, hfind]
      simp [drawPublisher, Pool.find?, hfind, hnone]
  | some anchor =>
      have htest : (fun a : Item =>
          nextPublisher? (articles.items.map id) == some (id a).publisherId) =
          fun a => a.publisherId == anchor.publisherId := by
        funext a
        simp [nextPublisher?, hfind, eq_comm]
      have hdraw : publisherDraw id c articles.items =
          Pool.draw (·.publisherId == anchor.publisherId) c.groupSize articles.items := by
        rw [publisherDraw, htest]
      have hhead : (publisherDraw id c articles.items).1 ≠ [] →
          (publisherDraw id c articles.items).1.head? = some anchor := by
        intro hne
        have hroom : c.groupSize ≠ 0 := by
          intro hzero
          rw [hdraw, hzero, Pool.draw] at hne
          exact hne rfl
        rw [hdraw, Pool.draw_taken, List.head?_take, if_neg hroom, List.head?_filter]
        exact find?_publisher hfind
      simp only [drawPublisher, Pool.find?, hfind, Pool.take, ← hdraw]
      rw [publisherGroup_eq hhead]

/-- Without a focus there is no category group to fill. -/
theorem fillSlots_category_of_none (c : Config) (now : Instant) (xs : List Item) :
    (fillSlots id c now none xs).1.category = [] := by
  have hnone : categoryDraw id c none (headlineDraw id c xs).2 = ([], (headlineDraw id c xs).2) :=
    Pool.draw_of_forall_not c.groupSize fun _ _ => rfl
  exact congrArg Prod.fst hnone

theorem drawPage_eq (c : Config) (now : Instant) (focus : Focus) (pools : Pools) :
    drawPage c now focus pools =
      let filled := fillSlots id c now focus.category pools.articles.items
      let deals := drawDeals c focus.deals pools.deals
      if filled.1.headlines.isEmpty then (none, pools)
      else (some (filled.1.toPage focus.category deals.1), ⟨⟨filled.2⟩, deals.2⟩) := by
  have hheadlines : drawHeadlines c pools.articles =
      ((headlineDraw id c pools.articles.items).1, ⟨(headlineDraw id c pools.articles.items).2⟩) :=
    rfl
  simp only [drawPage, hheadlines, drawCategory_eq, drawPublisher_eq]
  split
  · rename_i hnil
    -- without a headline the draw has left every article in its place
    have hleft : (headlineDraw id c pools.articles.items).2 = pools.articles.items := by
      have hperm := Pool.draw_perm Item.hasImage c.headlinesPerPage pools.articles.items
      have hsub := Pool.draw_left_sublist Item.hasImage c.headlinesPerPage pools.articles.items
      have htaken : (Pool.draw Item.hasImage c.headlinesPerPage pools.articles.items).1 = [] :=
        List.isEmpty_iff.mp hnil
      rw [htaken, List.nil_append] at hperm
      exact hsub.eq_of_length hperm.length_eq
    rw [if_pos (show (fillSlots id c now focus.category pools.articles.items).1.headlines.isEmpty
      from hnil), hleft]
  · rename_i hne
    rw [if_neg (show ¬ (fillSlots id c now focus.category
      pools.articles.items).1.headlines.isEmpty from hne)]
    rfl

/-- A page that cannot be drawn leaves everything in its place. -/
theorem drawPage_none {c : Config} {now : Instant} {focus : Focus} {pools left : Pools}
    (h : drawPage c now focus pools = (none, left)) : left = pools := by
  rw [drawPage_eq] at h
  dsimp only at h
  split at h
  · exact (Prod.mk.inj h).2.symm
  · cases (Prod.mk.inj h).1

end Newsfeed
