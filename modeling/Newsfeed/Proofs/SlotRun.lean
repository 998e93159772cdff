import Newsfeed.Proofs.PageStep

/-! # Runs under other names

Which article stands in which slot depends on the article pool and the queue of categories alone.
That part of a run is a loop of its own here, over entries that stand for articles. Run on the
articles themselves it is what `drawPages` does; run on their positions in the first pool it tells
apart articles that look alike.

* `slotRun_perm`, `slotRun_left_sublist`: nothing is lost or placed twice, and the rest keeps its
  order;
* `slotRun_split`: what follows the slots of a page is the run from what they leave;
* `slotRun_map`: renaming the entries renames the slots and changes nothing else;
* `slotRun_drawPages`: on articles under their own names, it fills the slots of `drawPages`;
* `drawPages_names`: under other names, it fills them as well;
* `articlePlaces`: the run over positions, with `articlePlaces_get` and `articlePlaces_perm`.
-/

namespace Newsfeed

variable {α β : Type}

/-- The step that fills the article slots of page `i`. Without a headline there is no page. -/
def slotStep (view : α → Item) (c : Config) (now : Instant) (queue : List String) (i : Nat)
    (xs : List α) : Option (ArticleSlots α × List α) :=
  let filled := fillSlots view c now queue[i]? xs
  if filled.1.headlines.isEmpty then none else some filled

/-- The article slots of all pages of a run, and what is left. -/
def slotRun (view : α → Item) (c : Config) (now : Instant) (ceiling : Nat) (queue : List String)
    (xs : List α) : List (ArticleSlots α) × List α :=
  loop ceiling (slotStep view c now queue) xs

/-- The run over the positions that the articles have in the pool it starts from. -/
def articlePlaces (c : Config) (now : Instant) (ceiling : Nat) (queue : List String)
    (articles : List Item) :
    List (ArticleSlots (Fin articles.length)) × List (Fin articles.length) :=
  slotRun articles.get c now ceiling queue (List.finRange articles.length)

theorem slotStep_eq_some {view : α → Item} {c : Config} {now : Instant} {queue : List String}
    {i : Nat} {xs left : List α} {slots : ArticleSlots α}
    (h : slotStep view c now queue i xs = some (slots, left)) :
    slots = (fillSlots view c now queue[i]? xs).1 ∧
      left = (fillSlots view c now queue[i]? xs).2 := by
  unfold slotStep at h
  dsimp only at h
  split at h
  · cases h
  · rw [Option.some.inj h]
    exact ⟨rfl, rfl⟩

section Names

variable (view : α → Item) (c : Config) (now : Instant) (ceiling : Nat) (queue : List String)

/-- Every entry goes to one slot of one page or is left. -/
theorem slotRun_perm (xs : List α) :
    ((slotRun view c now ceiling queue xs).1.flatMap ArticleSlots.all ++
      (slotRun view c now ceiling queue xs).2).Perm xs := by
  apply loop_perm id ArticleSlots.all
  intro i ys slots left h
  obtain ⟨rfl, rfl⟩ := slotStep_eq_some h
  exact fillSlots_perm view c now queue[i]? ys

/-- What is left keeps its order. -/
theorem slotRun_left_sublist (xs : List α) :
    (slotRun view c now ceiling queue xs).2.Sublist xs := by
  apply loop_invariant (fun left : List α => left.Sublist xs) _ ceiling (.refl xs)
  intro i ys slots left h hinv
  obtain ⟨rfl, rfl⟩ := slotStep_eq_some h
  exact (fillSlots_left_sublist view c now queue[i]? ys).trans hinv

/-- The slots of each page are filled from what the pages before it have left, and the pages after
it are the run from what it leaves. -/
theorem slotRun_split {xs : List α} {before after : List (ArticleSlots α)}
    {slots : ArticleSlots α}
    (h : (slotRun view c now ceiling queue xs).1 = before ++ slots :: after) :
    let filled := fillSlots view c now queue[before.length]?
      (slotRun view c now before.length queue xs).2
    slots = filled.1 ∧
      slotRun view c now (ceiling - (before.length + 1)) (queue.drop (before.length + 1))
        filled.2 = (after, (slotRun view c now ceiling queue xs).2) := by
  obtain ⟨next, hstep, hlater⟩ := loop_split h
  obtain ⟨hslots, rfl⟩ := slotStep_eq_some hstep
  have hdrop : (fun i => slotStep view c now queue (i + (before.length + 1))) =
      slotStep view c now (queue.drop (before.length + 1)) := by
    funext i ys
    simp only [slotStep, List.getElem?_drop, Nat.add_comm]
  rw [hdrop] at hlater
  exact ⟨hslots, hlater⟩

theorem slotStep_map (f : β → α) (i : Nat) (ys : List β) :
    slotStep view c now queue i (ys.map f) =
      (slotStep (view ∘ f) c now queue i ys).map (Prod.map (ArticleSlots.map f) (List.map f)) := by
  simp only [slotStep, fillSlots_map, ArticleSlots.map_headlines, List.isEmpty_map]
  split <;> rfl

/-- The run over renamed entries is the renamed run. -/
theorem slotRun_map (f : β → α) (ys : List β) :
    slotRun view c now ceiling queue (ys.map f) =
      ((slotRun (view ∘ f) c now ceiling queue ys).1.map (ArticleSlots.map f),
        (slotRun (view ∘ f) c now ceiling queue ys).2.map f) :=
  loop_simulates (slotStep_map view c now queue f) ceiling ys

end Names

section Run

variable (c : Config) (now : Instant) (ceiling : Nat) (rotation : Rotation) (pools : Pools)

theorem slotStep_pageStep (i : Nat) :
    slotStep id c now rotation.categories i pools.articles.items =
      (pageStep c now rotation i pools).map
        (Prod.map Page.slots fun pools => pools.articles.items) := by
  have hfocus : (rotation.focusAt i).category = rotation.categories[i]? := rfl
  simp only [slotStep, pageStep, drawPage_eq, hfocus]
  split
  · rfl
  · have hnone : rotation.categories[i]? = none →
        (fillSlots id c now rotation.categories[i]? pools.articles.items).1.category = [] := by
      intro h
      rw [h]
      exact fillSlots_category_of_none c now pools.articles.items
    simp [Prod.map, slots_toPage _ hnone]

/-- The slots of the pages of a run, and the articles that it leaves. -/
theorem slotRun_drawPages :
    slotRun id c now ceiling rotation.categories pools.articles.items =
      ((drawPages c now ceiling rotation pools).pages.map Page.slots,
        (drawPages c now ceiling rotation pools).left.articles.items) := by
  rw [drawPages_pages_eq, drawPages_left_eq]
  exact loop_simulates (fun i pools => slotStep_pageStep c now rotation pools i) ceiling pools

/-- Under any names, the run fills the slots of the pages, and leaves what they leave. -/
theorem drawPages_names (view : α → Item) {names : List α}
    (hnames : names.map view = pools.articles.items) :
    let run := slotRun view c now ceiling rotation.categories names
    (drawPages c now ceiling rotation pools).pages.map Page.slots =
        run.1.map (ArticleSlots.map view) ∧
      (drawPages c now ceiling rotation pools).left.articles.items = run.2.map view := by
  intro run
  have h := slotRun_drawPages c now ceiling rotation pools
  rw [← hnames, slotRun_map] at h
  exact ⟨(Prod.mk.inj h).1.symm, (Prod.mk.inj h).2.symm⟩

/-- What stands at the positions of a run is what the run places and leaves. -/
theorem articlePlaces_get :
    let places := articlePlaces c now ceiling rotation.categories pools.articles.items
    (drawPages c now ceiling rotation pools).pages.map Page.slots =
        places.1.map (ArticleSlots.map pools.articles.items.get) ∧
      (drawPages c now ceiling rotation pools).left.articles.items =
        places.2.map pools.articles.items.get :=
  drawPages_names c now ceiling rotation pools pools.articles.items.get
    (List.map_get_finRange _)

end Run

/-- Each position is in one slot of one page or is left. -/
theorem articlePlaces_perm (c : Config) (now : Instant) (ceiling : Nat) (queue : List String)
    (articles : List Item) :
    ((articlePlaces c now ceiling queue articles).1.flatMap ArticleSlots.all ++
      (articlePlaces c now ceiling queue articles).2).Perm (List.finRange articles.length) :=
  slotRun_perm articles.get c now ceiling queue _

end Newsfeed
