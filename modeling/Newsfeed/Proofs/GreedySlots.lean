import Newsfeed.Proofs.SlotRun

/-! # Greedy slots

The article slots of a page are drawn one after the other, each from what the draws before it have
left. What ends up in them can be told from the pool alone: a slot has the earliest articles that
satisfy its condition and are in no slot before it, as many as it has room for. Articles are told by
their positions in the pool here, since two of them may look alike.

* `untaken`, `earliest`: the positions that are left, and the first of them to satisfy a condition;
* `draw_untaken`: a draw from the positions that are left takes the earliest and leaves the others;
* `anchor?`: the first article left that names its publisher, which opens the group of that
  publisher (`head?_earliest_isWithAnchor`);
* `ArticleSlots.IsGreedy`: what the pool alone says of the slots, with `fillSlots_isGreedy`;
* `page_filled_greedily`: a page has these slots and leaves the rest of its pool.
-/

namespace Newsfeed

/-! ## Positions in a pool -/

section Positions

variable {n : Nat} (taken : List (Fin n)) (cond : Fin n → Bool) (limit : Nat)

/-- The positions that are not taken, in pool order. -/
def untaken : List (Fin n) := (List.finRange n).filter (· ∉ taken)

/-- The earliest positions that satisfy a condition and are not taken, up to a limit. -/
def earliest : List (Fin n) := ((untaken taken).filter cond).take limit

theorem untaken_nil : untaken ([] : List (Fin n)) = List.finRange n := by
  simp [untaken]

theorem mem_untaken_iff {i : Fin n} : i ∈ untaken taken ↔ i ∉ taken := by
  simp [untaken]

theorem nodup_untaken : (untaken taken).Nodup := (List.nodup_finRange n).filter _

/-- A draw from the positions that are left takes the earliest ones and leaves the others. -/
theorem draw_untaken :
    Pool.draw cond limit (untaken taken) =
      (earliest taken cond limit, untaken (taken ++ earliest taken cond limit)) := by
  have htaken : (Pool.draw cond limit (untaken taken)).1 = earliest taken cond limit :=
    Pool.draw_taken cond limit (untaken taken)
  have hleft : (Pool.draw cond limit (untaken taken)).2 =
      untaken (taken ++ earliest taken cond limit) := by
    rw [Pool.draw_left_of_nodup (nodup_untaken taken), htaken, untaken, untaken,
      List.filter_filter]
    apply List.filter_congr
    intro i _
    simp [Bool.and_comm]
  exact Prod.ext htaken hleft

theorem earliest_ne_nil_iff :
    earliest taken cond limit ≠ [] ↔ 0 < limit ∧ ∃ i, i ∉ taken ∧ cond i = true := by
  have hcond : (untaken taken).filter cond ≠ [] ↔ ∃ i, i ∉ taken ∧ cond i = true := by
    simp [List.filter_eq_nil_iff, mem_untaken_iff]
  rw [← hcond, earliest, Ne, List.take_eq_nil_iff, not_or, Nat.pos_iff_ne_zero]

end Positions

/-! ## What the pool says of the slots -/

/-- The first article not taken that names its publisher. -/
def anchor? (articles : List Item) (taken : List (Fin articles.length)) :
    Option (Fin articles.length) :=
  (untaken taken).find? fun i => (articles.get i).hasPublisher

/-- Whether an article has the publisher of the anchor. -/
def isWithAnchor (articles : List Item) (taken : List (Fin articles.length))
    (i : Fin articles.length) : Bool :=
  (anchor? articles taken).map (fun a => (articles.get a).publisherId) ==
    some (articles.get i).publisherId

/-- Every slot has, in pool order, the earliest articles that satisfy its condition and are in no
slot before it, up to its limit. -/
structure ArticleSlots.IsGreedy (c : Config) (now : Instant) (focus : Option String)
    {articles : List Item} (s : ArticleSlots (Fin articles.length)) : Prop where
  headlines : s.headlines = earliest [] (fun i => (articles.get i).hasImage) c.headlinesPerPage
  category : s.category =
    earliest s.headlines (fun i => focus == some (articles.get i).category) c.groupSize
  publisher : s.publisher = earliest (s.headlines ++ s.category)
    (isWithAnchor articles (s.headlines ++ s.category)) c.groupSize
  recent : s.recent = earliest (s.headlines ++ s.category ++ s.publisher)
    (fun i => isWithin now c.recentWindow (articles.get i)) c.recentPerPage

/-- There is an article with the publisher of the anchor if and only if there is one that names its
publisher at all. -/
theorem exists_isWithAnchor_iff {articles : List Item} (taken : List (Fin articles.length)) :
    (∃ i, i ∉ taken ∧ isWithAnchor articles taken i = true) ↔
      ∃ i, i ∉ taken ∧ (articles.get i).hasPublisher = true := by
  constructor
  · rintro ⟨i, -, hi⟩
    obtain ⟨a, ha, -⟩ := Option.map_eq_some_iff.mp (eq_of_beq hi)
    have hnamed := List.find?_some (p := fun i => (articles.get i).hasPublisher) ha
    exact ⟨a, (mem_untaken_iff taken).mp (List.mem_of_find?_eq_some ha), hnamed⟩
  · rintro ⟨i, hi, hnamed⟩
    have hsome : (anchor? articles taken).isSome = true :=
      List.find?_isSome.mpr ⟨i, (mem_untaken_iff taken).mpr hi, hnamed⟩
    obtain ⟨a, ha⟩ := Option.isSome_iff_exists.mp hsome
    refine ⟨a, (mem_untaken_iff taken).mp (List.mem_of_find?_eq_some ha), ?_⟩
    simp [isWithAnchor, ha]

/-- A group that there is room for starts with the anchor. -/
theorem head?_earliest_isWithAnchor {articles : List Item} (taken : List (Fin articles.length))
    {limit : Nat} (hroom : 0 < limit) :
    (earliest taken (isWithAnchor articles taken) limit).head? = anchor? articles taken := by
  rw [earliest, List.head?_take, if_neg (by omega), List.head?_filter]
  cases hanchor : anchor? articles taken with
  | none => simp [isWithAnchor, hanchor]
  | some a =>
      have htest : isWithAnchor articles taken =
          fun i => (articles.get i).publisherId == (articles.get a).publisherId := by
        funext i
        simp [isWithAnchor, hanchor, eq_comm]
      rw [htest]
      exact find?_publisher hanchor

/-- The publisher that comes next is that of the anchor. -/
theorem nextPublisher?_untaken {articles : List Item} (taken : List (Fin articles.length)) :
    nextPublisher? ((untaken taken).map articles.get) =
      (anchor? articles taken).map fun a => (articles.get a).publisherId := by
  rw [nextPublisher?, List.find?_map, Option.map_map]
  rfl

/-- The slots that are filled from the positions of a pool are greedy, and leave all that is in none
of them. -/
theorem fillSlots_isGreedy (c : Config) (now : Instant) (focus : Option String)
    (articles : List Item) :
    let filled := fillSlots articles.get c now focus (List.finRange articles.length)
    filled.1.IsGreedy c now focus ∧ filled.2 = untaken filled.1.all := by
  let headlines := earliest [] (fun i => (articles.get i).hasImage) c.headlinesPerPage
  let category :=
    earliest headlines (fun i => focus == some (articles.get i).category) c.groupSize
  let publisher := earliest (headlines ++ category)
    (isWithAnchor articles (headlines ++ category)) c.groupSize
  let recent := earliest (headlines ++ category ++ publisher)
    (fun i => isWithin now c.recentWindow (articles.get i)) c.recentPerPage
  -- each draw meets the positions that the draws before it have left
  have hheadlines : headlineDraw articles.get c (List.finRange articles.length) =
      (headlines, untaken headlines) := by
    rw [← untaken_nil]
    exact draw_untaken [] _ _
  have hcategory : categoryDraw articles.get c focus (untaken headlines) =
      (category, untaken (headlines ++ category)) := draw_untaken headlines _ _
  have hpublisher : publisherDraw articles.get c (untaken (headlines ++ category)) =
      (publisher, untaken (headlines ++ category ++ publisher)) := by
    rw [publisherDraw, nextPublisher?_untaken]
    exact draw_untaken (headlines ++ category) _ _
  have hrecent : recentDraw articles.get c now (untaken (headlines ++ category ++ publisher)) =
      (recent, untaken (headlines ++ category ++ publisher ++ recent)) :=
    draw_untaken (headlines ++ category ++ publisher) _ _
  have hfilled : fillSlots articles.get c now focus (List.finRange articles.length) =
      (⟨headlines, category, publisher, recent⟩,
        untaken (headlines ++ category ++ publisher ++ recent)) := by
    simp only [fillSlots, hheadlines, hcategory, hpublisher, hrecent]
  intro filled
  simp only [filled, hfilled]
  exact ⟨⟨rfl, rfl, rfl, rfl⟩, rfl⟩

/-! ## Pages -/

namespace IsPageStep

variable {c : Config} {now : Instant} {focus : Focus} {pools left : Pools} {page : Page}

/-- A page has a category group if it has articles for it. -/
theorem category_isSome_iff (h : IsPageStep c now focus pools page left) :
    page.category.isSome = true ↔ page.categoryItems ≠ [] := by
  cases hg : page.category with
  | none => simp [Page.categoryItems, hg]
  | some g =>
      obtain ⟨-, hitems, hne⟩ := h.category_eq_some hg
      rw [← hitems]
      simpa using hne

/-- A page has a publisher group if it has articles for it. -/
theorem publisher_isSome_iff (h : IsPageStep c now focus pools page left) :
    page.publisher.isSome = true ↔ page.publisherItems ≠ [] := by
  cases hg : page.publisher with
  | none => simp [Page.publisherItems, hg]
  | some g =>
      obtain ⟨hitems, anchor, hanchor, -⟩ := h.publisher_eq_some hg
      rw [← hitems]
      simpa using List.ne_nil_of_mem (List.mem_of_head? hanchor)

/-- The slots of a page and what it leaves, by their positions in the pool. -/
theorem exists_isGreedy (h : IsPageStep c now focus pools page left) :
    ∃ places : ArticleSlots (Fin pools.articles.items.length),
      places.IsGreedy c now focus.category ∧
      page.slots = places.map pools.articles.items.get ∧
      left.articles.items = (untaken places.all).map pools.articles.items.get := by
  -- the articles are those at their own positions, so the slots are those of the positions
  have hmap := fillSlots_map id c now focus.category pools.articles.items.get
    (List.finRange pools.articles.items.length)
  rw [List.map_get_finRange] at hmap
  obtain ⟨hgreedy, hleft⟩ := fillSlots_isGreedy c now focus.category pools.articles.items
  refine ⟨_, hgreedy, ?_, ?_⟩
  · rw [h.slots]
    exact congrArg Prod.fst hmap
  · rw [h.articles_left, ← hleft]
    exact congrArg Prod.snd hmap

end IsPageStep

/-- Every article slot of a page has the earliest articles of its pool that satisfy the condition of
the slot and are in no slot before it. A group is there if and only if there is room for it and an
article to put into it; the group of a publisher starts with its anchor, which gives the id and the
name. What a page leaves is the rest of its pool. -/
theorem page_filled_greedily {c : Config} {now : Instant} {focus : Focus} {pools left : Pools}
    {page : Page} (h : drawPage c now focus pools = (some page, left)) :
    let articles := pools.articles.items
    ∃ places : ArticleSlots (Fin articles.length),
      places.IsGreedy c now focus.category ∧
      page.slots = places.map articles.get ∧
      left.articles.items = (untaken places.all).map articles.get ∧
      (page.category.isSome = true ↔ 0 < c.groupSize ∧
        ∃ i, i ∉ places.headlines ∧ focus.category = some (articles.get i).category) ∧
      (∀ g, page.category = some g → focus.category = some g.category) ∧
      (page.publisher.isSome = true ↔ 0 < c.groupSize ∧
        ∃ i, i ∉ places.headlines ++ places.category ∧ (articles.get i).hasPublisher = true) ∧
      ∀ g, page.publisher = some g → ∃ anchor,
        anchor? articles (places.headlines ++ places.category) = some anchor ∧
        places.publisher.head? = some anchor ∧
        g.publisherId = (articles.get anchor).publisherId ∧
        g.name = (articles.get anchor).publisherName := by
  intro articles
  have hstep := isPageStep_of_drawPage h
  obtain ⟨places, hgreedy, hslots, hleft⟩ := hstep.exists_isGreedy
  have hcategory : page.categoryItems = places.category.map articles.get :=
    congrArg ArticleSlots.category hslots
  have hpublisher : page.publisherItems = places.publisher.map articles.get :=
    congrArg ArticleSlots.publisher hslots
  refine ⟨places, hgreedy, hslots, hleft, ?_, ?_, ?_, ?_⟩
  · -- the category group
    rw [hstep.category_isSome_iff, hcategory, Ne, List.map_eq_nil_iff, ← Ne, hgreedy.category,
      earliest_ne_nil_iff]
    simp only [beq_iff_eq, articles]
  · intro g hg
    exact (hstep.category_eq_some hg).1
  · -- the publisher group
    rw [hstep.publisher_isSome_iff, hpublisher, Ne, List.map_eq_nil_iff, ← Ne, hgreedy.publisher,
      earliest_ne_nil_iff, exists_isWithAnchor_iff]
  · -- its anchor
    intro g hg
    obtain ⟨hitems, first, hfirst, hid, hname⟩ := hstep.publisher_eq_some hg
    rw [hitems, hpublisher, List.head?_map] at hfirst
    obtain ⟨anchor, hanchor, rfl⟩ := Option.map_eq_some_iff.mp hfirst
    have hne : places.publisher ≠ [] := List.ne_nil_of_mem (List.mem_of_head? hanchor)
    rw [hgreedy.publisher, earliest_ne_nil_iff] at hne
    have hhead := head?_earliest_isWithAnchor (places.headlines ++ places.category) hne.1
    rw [← hgreedy.publisher, hanchor] at hhead
    exact ⟨anchor, hhead.symm, hanchor, hid.symm, hname.symm⟩

/-- Two articles of the category `news` with an image, the first of them from a publisher, two
articles of another publisher, the second of them also of `news` and recent, and one article that no
slot asks for. -/
def greedyPool : List Item :=
  [(((Item.article "a" "").withImage "image").withCategory "news").withPublisher "p" "P",
    ((Item.article "b" "").withImage "image").withCategory "news",
    (Item.article "c" "").withPublisher "q" "Q",
    { ((Item.article "d" "").withCategory "news").withPublisher "q" "R" with
      publishedAt := some Instant.epoch },
    Item.article "e" ""]

theorem page_filled_greedily_sample :
    let c : Config := { headlinesPerPage := 1, groupSize := 1 }
    let group : PublisherGroup := ⟨"q", "Q", [greedyPool[2]]⟩
    let page : Page :=
      { headlines := [greedyPool[0]]
        recent := [greedyPool[3]]
        deals := []
        category := some ⟨"news", [greedyPool[1]]⟩
        publisher := some group }
    drawPage c Instant.epoch ⟨some "news", none⟩ ⟨⟨greedyPool⟩, ⟨[]⟩⟩ =
        (some page, ⟨⟨[greedyPool[4]]⟩, ⟨[]⟩⟩) ∧
      ∃ places : ArticleSlots (Fin greedyPool.length),
        places.IsGreedy c Instant.epoch (some "news") ∧
        page.slots = places.map greedyPool.get ∧
        [greedyPool[4]] = (untaken places.all).map greedyPool.get ∧
        ∃ anchor, places.publisher.head? = some anchor ∧
          group.name = (greedyPool.get anchor).publisherName := by
  intro c group page
  have hdraw : drawPage c Instant.epoch ⟨some "news", none⟩ ⟨⟨greedyPool⟩, ⟨[]⟩⟩ =
      (some page, ⟨⟨[greedyPool[4]]⟩, ⟨[]⟩⟩) := by decide
  obtain ⟨places, hgreedy, hslots, hleft, -, -, -, hgroup⟩ := page_filled_greedily hdraw
  obtain ⟨anchor, -, hhead, -, hname⟩ := hgroup group rfl
  exact ⟨hdraw, places, hgreedy, hslots, hleft, anchor, hhead, hname⟩

end Newsfeed
