import Mathlib.Data.List.Perm.Basic
import Newsfeed.Page.Slots
import Newsfeed.Proofs.Draws

/-! # The article slots of a page

The articles of a page come out of four draws, each from what the draws before it have left. They
are followed here under any names: the entries of a pool may be articles or, say, their positions
in the pool that a run started from, as long as `view` tells which article an entry stands for.

* `fillSlots`: the four slots, and what is left after the last of them;
* `fillSlots_perm`, `fillSlots_left_sublist`: nothing is lost or taken twice on the way;
* `fillSlots_map`: renaming the entries of the pool renames the slots and changes nothing else;
* `fillSlots_fits`, `hasImage_of_mem_headlines` and its like: every slot keeps its limit and holds
  nothing but its kind;
* `not_hasImage_of_short` and its like: a slot that is not full leaves nothing of its kind.
-/

namespace Newsfeed

variable {α β : Type}

/-- The article slots of a page. -/
structure ArticleSlots (α : Type) where
  headlines : List α
  category : List α
  publisher : List α
  recent : List α
deriving DecidableEq

namespace ArticleSlots

/-- All entries, slot by slot. -/
def all (s : ArticleSlots α) : List α := s.headlines ++ s.category ++ s.publisher ++ s.recent

/-- The slots with every entry renamed. -/
def map (f : α → β) (s : ArticleSlots α) : ArticleSlots β :=
  ⟨s.headlines.map f, s.category.map f, s.publisher.map f, s.recent.map f⟩

theorem map_headlines (f : α → β) (s : ArticleSlots α) :
    (s.map f).headlines = s.headlines.map f := rfl

/-- No slot holds more entries than its limit. -/
structure Fits (c : Config) (s : ArticleSlots α) : Prop where
  headlines_le : s.headlines.length ≤ c.headlinesPerPage
  category_le : s.category.length ≤ c.groupSize
  publisher_le : s.publisher.length ≤ c.groupSize
  recent_le : s.recent.length ≤ c.recentPerPage

theorem Fits.length_all_le {c : Config} {s : ArticleSlots α} (h : s.Fits c) :
    s.all.length ≤ c.headlinesPerPage + 2 * c.groupSize + c.recentPerPage := by
  have hheadlines := h.headlines_le
  have hcategory := h.category_le
  have hpublisher := h.publisher_le
  have hrecent := h.recent_le
  simp only [all, List.length_append]
  omega

end ArticleSlots

/-- The publisher whose group comes next: that of the first article that names one. -/
def nextPublisher? (articles : List Item) : Option String :=
  (articles.find? Item.hasPublisher).map (·.publisherId)

/-- A publisher whose group comes next has an id. -/
theorem nextPublisher?_ne_empty {articles : List Item} {id : String}
    (h : nextPublisher? articles = some id) : id ≠ "" := by
  obtain ⟨anchor, hanchor, rfl⟩ := Option.map_eq_some_iff.mp h
  simpa [Item.hasPublisher] using List.find?_some hanchor

section Slots

variable (view : α → Item) (c : Config) (now : Instant) (focus : Option String) (xs : List α)

/-- The headlines, and what they leave. -/
def headlineDraw : List α × List α :=
  Pool.draw (fun a => (view a).hasImage) c.headlinesPerPage xs

/-- The group of a category, and what it leaves. Without a focus nothing matches. -/
def categoryDraw : List α × List α :=
  Pool.draw (fun a => focus == some (view a).category) c.groupSize xs

/-- The group of the next publisher, and what it leaves. Without a publisher nothing matches. -/
def publisherDraw : List α × List α :=
  Pool.draw (fun a => nextPublisher? (xs.map view) == some (view a).publisherId) c.groupSize xs

/-- The recent articles, and what they leave. -/
def recentDraw : List α × List α :=
  Pool.draw (fun a => isWithin now c.recentWindow (view a)) c.recentPerPage xs

/-- The article slots of one page, and what is left after the last of them. Each slot draws from
what the slots before it have left. -/
def fillSlots : ArticleSlots α × List α :=
  let headlines := headlineDraw view c xs
  let category := categoryDraw view c focus headlines.2
  let publisher := publisherDraw view c category.2
  let recent := recentDraw view c now publisher.2
  (⟨headlines.1, category.1, publisher.1, recent.1⟩, recent.2)

/-- What the publisher group leaves goes to the recent articles or is left. -/
theorem afterPublisher_perm :
    ((fillSlots view c now focus xs).1.recent ++ (fillSlots view c now focus xs).2).Perm
      (publisherDraw view c (categoryDraw view c focus (headlineDraw view c xs).2).2).2 :=
  Pool.draw_perm _ _ _

/-- What the category group leaves goes to one of the slots after it or is left. -/
theorem afterCategory_perm :
    ((fillSlots view c now focus xs).1.publisher ++ (fillSlots view c now focus xs).1.recent ++
      (fillSlots view c now focus xs).2).Perm
      (categoryDraw view c focus (headlineDraw view c xs).2).2 := by
  rw [List.append_assoc]
  exact ((afterPublisher_perm view c now focus xs).append_left _).trans (Pool.draw_perm _ _ _)

/-- What the headlines leave goes to one of the slots after them or is left. -/
theorem afterHeadlines_perm :
    ((fillSlots view c now focus xs).1.category ++ (fillSlots view c now focus xs).1.publisher ++
      (fillSlots view c now focus xs).1.recent ++ (fillSlots view c now focus xs).2).Perm
      (headlineDraw view c xs).2 := by
  have h := (afterCategory_perm view c now focus xs).append_left
    (fillSlots view c now focus xs).1.category
  simp only [← List.append_assoc] at h
  exact h.trans (Pool.draw_perm _ _ _)

/-- Every entry of the pool goes to one slot or is left. -/
theorem fillSlots_perm :
    ((fillSlots view c now focus xs).1.all ++ (fillSlots view c now focus xs).2).Perm xs := by
  have h := (afterHeadlines_perm view c now focus xs).append_left
    (fillSlots view c now focus xs).1.headlines
  simp only [← List.append_assoc] at h
  exact h.trans (Pool.draw_perm _ _ _)

/-- What is left after the last slot is, in its order, part of what the headlines leave. -/
theorem afterHeadlines_sublist :
    (fillSlots view c now focus xs).2.Sublist (headlineDraw view c xs).2 :=
  (Pool.draw_left_sublist _ _ _).trans <| (Pool.draw_left_sublist _ _ _).trans <|
    Pool.draw_left_sublist _ _ _

/-- What is left keeps its order. -/
theorem fillSlots_left_sublist : (fillSlots view c now focus xs).2.Sublist xs :=
  (afterHeadlines_sublist view c now focus xs).trans (Pool.draw_left_sublist _ _ _)

/-- The slots of renamed entries are the renamed slots. -/
theorem fillSlots_map (f : β → α) (ys : List β) :
    fillSlots view c now focus (ys.map f) =
      ((fillSlots (view ∘ f) c now focus ys).1.map f,
        (fillSlots (view ∘ f) c now focus ys).2.map f) := by
  simp only [fillSlots, headlineDraw, categoryDraw, publisherDraw, recentDraw, Pool.draw_map,
    List.map_map, ArticleSlots.map]
  rfl

/-- The slots keep their limits. -/
theorem fillSlots_fits : (fillSlots view c now focus xs).1.Fits c where
  headlines_le := Pool.length_draw_le _ _ _
  category_le := Pool.length_draw_le _ _ _
  publisher_le := Pool.length_draw_le _ _ _
  recent_le := Pool.length_draw_le _ _ _

/-! ### What stands in a slot -/

/-- Headlines have an image. -/
theorem hasImage_of_mem_headlines {a : α} (ha : a ∈ (fillSlots view c now focus xs).1.headlines) :
    (view a).hasImage = true :=
  Pool.of_mem_draw (fun a => (view a).hasImage) _ _ ha

/-- The articles of the category group have the category in focus. -/
theorem focus_of_mem_category {a : α} (ha : a ∈ (fillSlots view c now focus xs).1.category) :
    focus = some (view a).category := by
  have h := Pool.of_mem_draw (fun a => focus == some (view a).category) _ _ ha
  simpa using h

/-- The articles of the publisher group have the publisher that comes next. -/
theorem nextPublisher?_of_mem_publisher {a : α}
    (ha : a ∈ (fillSlots view c now focus xs).1.publisher) :
    nextPublisher? ((categoryDraw view c focus (headlineDraw view c xs).2).2.map view) =
      some (view a).publisherId := by
  have h := Pool.of_mem_draw
    (fun a => nextPublisher? ((categoryDraw view c focus (headlineDraw view c xs).2).2.map view) ==
      some (view a).publisherId) _ _ ha
  simpa using h

/-- Recent articles are within the window. -/
theorem isWithin_of_mem_recent {a : α} (ha : a ∈ (fillSlots view c now focus xs).1.recent) :
    isWithin now c.recentWindow (view a) = true :=
  Pool.of_mem_draw (fun a => isWithin now c.recentWindow (view a)) _ _ ha

/-! ### Slots that are not full -/

/-- Headlines below their limit leave no image for a later slot. -/
theorem not_hasImage_of_short
    (hshort : (fillSlots view c now focus xs).1.headlines.length < c.headlinesPerPage) {a : α}
    (ha : a ∈ (fillSlots view c now focus xs).1.category ++
      (fillSlots view c now focus xs).1.publisher ++ (fillSlots view c now focus xs).1.recent ++
      (fillSlots view c now focus xs).2) : (view a).hasImage = false :=
  Pool.not_test_of_short hshort ((afterHeadlines_perm view c now focus xs).mem_iff.mp ha)

/-- A category group below its limit leaves no article of the category for a later slot. -/
theorem ne_focus_of_short
    (hshort : (fillSlots view c now focus xs).1.category.length < c.groupSize) {a : α}
    (ha : a ∈ (fillSlots view c now focus xs).1.publisher ++
      (fillSlots view c now focus xs).1.recent ++ (fillSlots view c now focus xs).2) :
    focus ≠ some (view a).category := by
  have h := Pool.not_test_of_short hshort ((afterCategory_perm view c now focus xs).mem_iff.mp ha)
  simpa using h

/-- A publisher group below its limit leaves no article of the publisher for a later slot. -/
theorem ne_publisher_of_short
    (hshort : (fillSlots view c now focus xs).1.publisher.length < c.groupSize) {a b : α}
    (ha : a ∈ (fillSlots view c now focus xs).1.publisher)
    (hb : b ∈ (fillSlots view c now focus xs).1.recent ++ (fillSlots view c now focus xs).2) :
    (view b).publisherId ≠ (view a).publisherId := by
  have hnot := Pool.not_test_of_short hshort
    ((afterPublisher_perm view c now focus xs).mem_iff.mp hb)
  have hnext := nextPublisher?_of_mem_publisher view c now focus xs ha
  intro heq
  rw [heq, hnext, beq_self_eq_true] at hnot
  cases hnot

/-- A page that has room for a publisher group and shows none leaves no article that names its
publisher. -/
theorem not_hasPublisher_of_no_group (hroom : 0 < c.groupSize)
    (hnone : (fillSlots view c now focus xs).1.publisher = []) {b : α}
    (hb : b ∈ (fillSlots view c now focus xs).1.recent ++ (fillSlots view c now focus xs).2) :
    (view b).hasPublisher = false := by
  have hpool := (afterPublisher_perm view c now focus xs).mem_iff.mp hb
  have hmem := (Pool.mem_draw_iff _ _ _).mp (Or.inr hpool)
  have hnil : (publisherDraw view c (categoryDraw view c focus (headlineDraw view c xs).2).2).1 =
      [] := hnone
  generalize (categoryDraw view c focus (headlineDraw view c xs).2).2 = ys at hmem hnil
  cases hfind : (ys.map view).find? Item.hasPublisher with
  | none =>
      have h := List.find?_eq_none.mp hfind (view b) (List.mem_map_of_mem hmem)
      simpa using h
  | some anchor =>
      -- the first article with a publisher would be in its own group
      obtain ⟨a, ha, rfl⟩ := List.mem_map.mp (List.mem_of_find?_eq_some hfind)
      have hnot := Pool.not_test_of_taken_nil hroom hnil ha
      simp [nextPublisher?, hfind] at hnot

/-- Recent articles below their limit leave no article within the window. -/
theorem not_isWithin_of_short
    (hshort : (fillSlots view c now focus xs).1.recent.length < c.recentPerPage) {a : α}
    (ha : a ∈ (fillSlots view c now focus xs).2) :
    isWithin now c.recentWindow (view a) = false :=
  Pool.not_test_of_short hshort ha

end Slots

end Newsfeed
