import Newsfeed.Proofs.SlotRun

/-! # The order of headlines

The slots between two headline draws take articles out of the middle of the pool, but they add none
and move none. So the pool of every page is still in the order of the first pool, and the headlines
of a page, which are the first articles with an image in it, stand before all images to come.

* `headlines_append_left_sublist`: what one page does to the articles with an image;
* `slotRun_headlines_sublist`: the headlines of all pages are in the order of the pool;
* `slotRun_headlines_before`: every image that is placed later or left stands after them.
-/

namespace Newsfeed

variable {α : Type}

section Order

variable (view : α → Item) (c : Config) (now : Instant) (ceiling : Nat) (queue : List String)

/-- The headlines of a page and the images that it leaves are, in this order, among the images
of its pool. -/
theorem headlines_append_left_sublist (focus : Option String) (xs : List α) :
    ((fillSlots view c now focus xs).1.headlines ++
      (fillSlots view c now focus xs).2.filter fun a => (view a).hasImage).Sublist
      (xs.filter fun a => (view a).hasImage) := by
  have hdraw : (headlineDraw view c xs).1 ++
      (headlineDraw view c xs).2.filter (fun a => (view a).hasImage) =
      xs.filter fun a => (view a).hasImage := Pool.draw_taken_append_filter_left _ _ _
  rw [← hdraw]
  exact ((afterHeadlines_sublist view c now focus xs).filter _).append_left _

/-- The headlines of all pages are, page after page, among the articles of the pool in their
order. -/
theorem slotRun_headlines_sublist (xs : List α) :
    ((slotRun view c now ceiling queue xs).1.flatMap ArticleSlots.headlines).Sublist xs := by
  have hsub : ((slotRun view c now ceiling queue xs).1.flatMap ArticleSlots.headlines ++
      (slotRun view c now ceiling queue xs).2.filter fun a => (view a).hasImage).Sublist
      (xs.filter fun a => (view a).hasImage) := by
    apply loop_sublist (fun ys : List α => ys.filter fun a => (view a).hasImage)
    intro i ys slots left h
    obtain ⟨rfl, rfl⟩ := slotStep_eq_some h
    exact headlines_append_left_sublist view c now queue[i]? ys
  exact (List.sublist_append_left _ _).trans (hsub.trans List.filter_sublist)

/-- The headlines of a page stand before every image that is placed in another slot of the page,
placed on a later page, or left. -/
theorem slotRun_headlines_before {r : α → α → Prop} {xs : List α} (hxs : xs.Pairwise r)
    {before after : List (ArticleSlots α)} {slots : ArticleSlots α}
    (h : (slotRun view c now ceiling queue xs).1 = before ++ slots :: after) {a b : α}
    (ha : a ∈ slots.headlines)
    (hb : b ∈ slots.category ++ slots.publisher ++ slots.recent ++
      after.flatMap ArticleSlots.all ++ (slotRun view c now ceiling queue xs).2)
    (himage : (view b).hasImage = true) : r a b := by
  obtain ⟨rfl, hlater⟩ := slotRun_split view c now ceiling queue h
  have hpool := hxs.sublist (slotRun_left_sublist view c now before.length queue xs)
  generalize (slotRun view c now before.length queue xs).2 = ys at ha hb hlater hpool
  -- all that comes after the page comes out of what the page leaves
  have hnext := slotRun_perm view c now (ceiling - (before.length + 1))
    (queue.drop (before.length + 1)) (fillSlots view c now queue[before.length]? ys).2
  rw [hlater] at hnext
  have hrest : b ∈ (headlineDraw view c ys).2 := by
    rw [List.append_assoc] at hb
    exact (afterHeadlines_perm view c now queue[before.length]? ys).mem_iff.mp
      ((hnext.append_left _).mem_iff.mp hb)
  exact Pool.draw_before_left hpool ha hrest himage

end Order

/-- Whatever the pools, the rotation and the settings, the headlines of a run, page after page, have
increasing positions in the article pool; and every image that is placed in another slot of a page,
placed on a later page, or left has a position after all headlines of that page. The positions are
those of `articlePlaces`: they hold what the pages show and what is left, each once. -/
theorem headlines_in_pool_order (c : Config) (now : Instant) (ceiling : Nat) (rotation : Rotation)
    (pools : Pools) :
    let articles := pools.articles.items
    let run := drawPages c now ceiling rotation pools
    let places := articlePlaces c now ceiling rotation.categories articles
    (run.pages.map Page.slots = places.1.map (ArticleSlots.map articles.get) ∧
      run.left.articles.items = places.2.map articles.get ∧
      (places.1.flatMap ArticleSlots.all ++ places.2).Perm (List.finRange articles.length)) ∧
    (places.1.flatMap ArticleSlots.headlines).Pairwise (· < ·) ∧
    ∀ before page after, places.1 = before ++ page :: after →
      ∀ i ∈ page.headlines,
      ∀ j ∈ page.category ++ page.publisher ++ page.recent ++ after.flatMap ArticleSlots.all ++
        places.2, (articles.get j).hasImage = true → i < j := by
  intro articles run places
  have hordered := List.pairwise_lt_finRange articles.length
  refine ⟨?_, ?_, ?_⟩
  · -- the positions are those of the articles that the run places and leaves
    obtain ⟨hpages, hleft⟩ := articlePlaces_get c now ceiling rotation pools
    exact ⟨hpages, hleft, articlePlaces_perm c now ceiling rotation.categories articles⟩
  · exact hordered.sublist
      (slotRun_headlines_sublist articles.get c now ceiling rotation.categories _)
  · intro before page after h i hi j hj himage
    exact slotRun_headlines_before articles.get c now ceiling rotation.categories hordered h hi hj
      himage

/-- Three articles with an image, the last of them in the category `news`, and one without. -/
def orderedPool : List Item :=
  [(Item.article "a" "").withImage "image", (Item.article "b" "").withImage "image",
    Item.article "c" "", ((Item.article "d" "").withImage "image").withCategory "news"]

theorem headlines_in_pool_order_sample :
    let c : Config := { headlinesPerPage := 1, groupSize := 1 }
    let places := articlePlaces c Instant.epoch 4 ["news"] orderedPool
    let first : Fin orderedPool.length := ⟨0, by decide⟩
    let second : Fin orderedPool.length := ⟨1, by decide⟩
    let last : Fin orderedPool.length := ⟨3, by decide⟩
    places.1 = [⟨[first], [last], [], []⟩, ⟨[second], [], [], []⟩] ∧
      (orderedPool.get last).hasImage = true ∧ first < last := by
  intro c places first second last
  have hplaces : places.1 = [⟨[first], [last], [], []⟩, ⟨[second], [], [], []⟩] := by decide
  have himage : (orderedPool.get last).hasImage = true := by decide
  have horder := (headlines_in_pool_order c Instant.epoch 4 ⟨["news"], []⟩
    ⟨⟨orderedPool⟩, ⟨[]⟩⟩).2.2 [] ⟨[first], [last], [], []⟩ [⟨[second], [], [], []⟩] hplaces
  exact ⟨hplaces, himage, horder first (by decide) last (by decide) himage⟩

end Newsfeed
