import Newsfeed.Proofs.HeadlineOrder
import Newsfeed.Proofs.Sides

/-! # Ranks from end to end

Articles and deals are ranked once, and the best articles are shuffled. From there on nothing moves:
the featured article is taken out of the middle, every page draws in order. So the ranks can still
be read off a feed, up to the shuffle, which stays among the best.

An article is told by its rank here, since two articles may look alike. The shuffler rearranges the
articles themselves, so a rearrangement of the ranks has to be found that it could have been.

* `rankedItems`: the items of a kind, each at its rank;
* `InRankOrder`: the order of two ranks that the shuffle cannot break;
* `exists_order_of_shuffle`: what the shuffler returns is a list of ranks in that order;
* `Placement`: where every article goes, by its rank, with `Assembler.exists_placement`;
* `ranks_kept`: what can be said of the ranks in a feed.
-/

namespace Newsfeed

/-! ## Ranks -/

/-- The items of a kind in rank order, as the feed shows them. The rank of an item is its position in
this list. -/
def rankedItems (kind : Item → Bool) (c : Config) (enabled : Enablement) (hosts : List String)
    (now : Instant) (items : List Item) : List Item :=
  ((rank c hosts (enabled.filter items)).filter kind).map (Item.normalize c now)

/-- There are as many ranks as enabled items of the kind. -/
theorem length_rankedItems {kind : Item → Bool} (c : Config) (enabled : Enablement)
    (hosts : List String) (now : Instant) (items : List Item)
    (hkind : ∀ it : Item, kind (it.weigh c hosts) = kind it) :
    (rankedItems kind c enabled hosts now items).length =
      ((enabled.filter items).filter kind).length := by
  rw [rankedItems, rank_filter c hosts hkind, List.length_map, (rank_perm c hosts _).length_eq,
    List.length_map]

theorem sortKey_normalize (c d : Config) (now : Instant) (it : Item) :
    (it.normalize c now).sortKey d = it.sortKey d := by
  rw [Item.sortKey, Item.points_normalize, Item.sortKey]

/-- A better rank means a key that is not higher. -/
theorem rankedItems_pairwise (kind : Item → Bool) (c : Config) (enabled : Enablement)
    (hosts : List String) (now : Instant) (items : List Item) :
    (rankedItems kind c enabled hosts now items).Pairwise fun x y =>
      (x.sortKey c).place ≤ (y.sortKey c).place := by
  have hrank := (rank_pairwise c hosts (enabled.filter items)).sublist
    (List.filter_sublist (p := kind))
  rw [rankedItems, List.pairwise_map]
  apply hrank.imp
  intro x y h
  rw [sortKey_normalize, sortKey_normalize]
  exact (ranksBefore_iff c x y).mp h

/-! ## Ranks after the shuffle -/

/-- One rank may stand before another: it is better, or both are among the best `k`, which may
stand in any order. -/
def InRankOrder (k : Nat) {n : Nat} (i j : Fin n) : Prop := i < j ∨ (i.val < k ∧ j.val < k)

theorem val_lt_of_mem_take {n top : Nat} {i : Fin n} (h : i ∈ (List.finRange n).take top) :
    i.val < top := by
  obtain ⟨r, hr, rfl⟩ := List.mem_take_iff_getElem.mp h
  simp only [List.getElem_finRange, Fin.val_cast]
  omega

/-- The best ranks in any order, and then all others in theirs, are in rank order. -/
theorem pairwise_inRankOrder {n top : Nat} {best : List (Fin n)}
    (hbest : best.Perm ((List.finRange n).take top)) :
    (best ++ (List.finRange n).drop top).Pairwise (InRankOrder (min top n)) := by
  have hlt : ((List.finRange n).take top ++ (List.finRange n).drop top).Pairwise (· < ·) := by
    rw [List.take_append_drop]
    exact List.pairwise_lt_finRange n
  obtain ⟨-, hrest, hacross⟩ := List.pairwise_append.mp hlt
  refine List.pairwise_append.mpr ⟨?_, ?_, ?_⟩
  · -- any two of the best ranks may stand in either order
    apply List.pairwise_of_forall_mem_list
    intro i hi j hj
    have hi' := val_lt_of_mem_take (hbest.mem_iff.mp hi)
    have hj' := val_lt_of_mem_take (hbest.mem_iff.mp hj)
    exact Or.inr ⟨by omega, by omega⟩
  · exact hrest.imp Or.inl
  · intro i hi j hj
    exact Or.inl (hacross i (hbest.mem_iff.mp hi) j hj)

/-- What a shuffler makes of the articles is a rearrangement of their ranks, and it is in rank order
up to the shuffled ones. -/
theorem exists_order_of_shuffle {σ : Type} {sh : Shuffler σ} (hsh : sh.Permutes) (top : Nat)
    (s : σ) (articles : List Item) :
    ∃ order : List (Fin articles.length),
      (shuffleTop sh top s articles).1 = order.map articles.get ∧
      order.Perm (List.finRange articles.length) ∧
      order.Pairwise (InRankOrder (min top articles.length)) := by
  -- the shuffler has seen articles; some rearrangement of their ranks gives what it returned
  have hperm : (sh.run s (articles.take top)).1.Perm
      (((List.finRange articles.length).take top).map articles.get) := by
    rw [List.map_take, List.map_get_finRange]
    exact hsh s (articles.take top)
  obtain ⟨best, hrun, hbest⟩ := (congrFun₂ (List.eq_map_comp_perm articles.get) _ _).mpr hperm
  refine ⟨best ++ (List.finRange articles.length).drop top, ?_, ?_, pairwise_inRankOrder hbest⟩
  · rw [List.map_append, ← hrun, List.map_drop, List.map_get_finRange]
    rfl
  · have h := hbest.append_right ((List.finRange articles.length).drop top)
    rw [List.take_append_drop] at h
    exact h

theorem shuffleTop_identity {α : Type} (top : Nat) (s : Unit) (xs : List α) :
    shuffleTop Shuffler.identity top s xs = (xs, s) := by
  simp [shuffleTop, Shuffler.identity]

/-- The first entry that passes a test stands before all others that do. -/
theorem find?_before {α : Type} {r : α → α → Prop} {test : α → Bool} {xs : List α}
    (hxs : xs.Pairwise r) {a b : α} (ha : xs.find? test = some a) (hb : b ∈ xs)
    (htest : test b = true) : b = a ∨ r a b := by
  obtain ⟨-, before, after, rfl, hnot⟩ := List.find?_eq_some_iff_append.mp ha
  have hafter := (List.pairwise_append.mp hxs).2.1
  rcases List.mem_append.mp hb with hbefore | hb
  · -- nothing before the first such entry passes
    have h := hnot b hbefore
    simp [htest] at h
  · rcases List.mem_cons.mp hb with rfl | hb
    · exact Or.inl rfl
    · exact Or.inr ((List.pairwise_cons.mp hafter).1 b hb)

/-- The first rank to pass a test is one of the best `k` if any of them passes, and otherwise it is
the best rank of all that pass. -/
theorem find?_inRankOrder {k n : Nat} {order : List (Fin n)} (hperm : order.Perm (List.finRange n))
    (horder : order.Pairwise (InRankOrder k)) {test : Fin n → Bool} {i : Fin n}
    (hi : order.find? test = some i) :
    (∀ j, j.val < k → test j = true → i.val < k) ∧
      ((∀ j, test j = true → k ≤ j.val) → ∀ j, test j = true → i ≤ j) := by
  have hfirst : ∀ j, test j = true → j = i ∨ InRankOrder k i j := by
    intro j hj
    exact find?_before horder hi (hperm.mem_iff.mpr (List.mem_finRange j)) hj
  constructor
  · intro j hjk hj
    rcases hfirst j hj with rfl | hlt | hbest
    · exact hjk
    · exact Nat.lt_trans hlt hjk
    · exact hbest.1
  · intro hnone j hj
    rcases hfirst j hj with rfl | hlt | hbest
    · exact Fin.le_refl _
    · exact Fin.le_of_lt hlt
    · -- no rank that passes is among the best
      have hjk := hnone j hj
      omega

/-- In rank order, the best `k` come before all others, and the others in increasing order. -/
theorem best_first_of_inRankOrder {k n : Nat} {ranks : List (Fin n)}
    (h : ranks.Pairwise (InRankOrder k)) :
    ranks.Pairwise (fun i j => j.val < k → i.val < k) ∧
      (ranks.filter (k ≤ ·.val)).Pairwise (· < ·) := by
  constructor
  · apply h.imp
    rintro i j (hlt | hbest) hj
    · exact Nat.lt_trans hlt hj
    · exact hbest.1
  · apply (h.sublist List.filter_sublist).imp_of_mem
    intro i j hi hj hij
    have hik : k ≤ i.val := by simpa using (List.mem_filter.mp hi).2
    rcases hij with hlt | hbest
    · exact hlt
    · -- two of the best, but the filter keeps none of them
      omega

/-! ## Places by rank -/

/-- Where an assembly puts the articles, told by their ranks. -/
structure Placement (articles : List Item) where
  featured : Option (Fin articles.length)
  slots : List (ArticleSlots (Fin articles.length))
  left : List (Fin articles.length)

namespace Placement

variable {articles : List Item}

/-- The ranks of the headlines, page after page. -/
def headlines (p : Placement articles) : List (Fin articles.length) :=
  p.slots.flatMap ArticleSlots.headlines

/-- The placement is that of an assembly: its articles stand at the places of their ranks, and every
rank has one place. -/
structure Describes (p : Placement articles) (result : Assembly) : Prop where
  featured : result.feed.featuredArticle = p.featured.map articles.get
  slots : result.feed.pages.map Page.slots = p.slots.map (ArticleSlots.map articles.get)
  left : result.left.articles.items = p.left.map articles.get
  perm : (p.featured.toList ++ p.slots.flatMap ArticleSlots.all ++ p.left).Perm
    (List.finRange articles.length)

theorem Describes.headlines_eq {p : Placement articles} {result : Assembly}
    (h : p.Describes result) :
    result.feed.pages.flatMap Page.headlines = p.headlines.map articles.get := by
  have hslots := congrArg (List.flatMap ArticleSlots.headlines) h.slots
  simp only [List.flatMap_map] at hslots
  rw [headlines, List.map_flatMap]
  exact hslots

/-- The placement keeps the order of ranks, but for a shuffle of the best `k`. -/
structure KeepsRanks (p : Placement articles) (k : Nat) (lead : String) : Prop where
  /-- The featured article has the lead category. -/
  featured_lead : ∀ i ∈ p.featured, (articles.get i).category = lead
  /-- It is one of the best `k` if any of them has that category. -/
  featured_best : ∀ i ∈ p.featured, ∀ j, j.val < k → (articles.get j).category = lead → i.val < k
  /-- Otherwise no article of that category is better. -/
  featured_first : ∀ i ∈ p.featured, (∀ j, (articles.get j).category = lead → k ≤ j.val) →
    ∀ j, (articles.get j).category = lead → i ≤ j
  /-- Among the headlines of all pages, the best `k` come before all others. -/
  best_first : p.headlines.Pairwise fun i j => j.val < k → i.val < k
  /-- The others come in rank order. -/
  rest_sorted : (p.headlines.filter (k ≤ ·.val)).Pairwise (· < ·)

/-- Whatever is drawn from an order keeps the ranks as far as the order does. -/
theorem keepsRanks_of_order {p : Placement articles} {order : List (Fin articles.length)} {k : Nat}
    {lead : String} (hperm : order.Perm (List.finRange articles.length))
    (horder : order.Pairwise (InRankOrder k))
    (hfeatured : p.featured = order.find? fun i => (articles.get i).category == lead)
    (hheadlines : p.headlines.Sublist order) : p.KeepsRanks k lead := by
  have hfirst : ∀ i ∈ p.featured,
      order.find? (fun i => (articles.get i).category == lead) = some i := by
    intro i hi
    rw [← hfeatured]
    exact hi
  obtain ⟨hbest, hrest⟩ := best_first_of_inRankOrder (horder.sublist hheadlines)
  constructor
  case featured_lead =>
    intro i hi
    simpa using List.find?_some (hfirst i hi)
  case featured_best =>
    intro i hi
    simpa using (find?_inRankOrder hperm horder (hfirst i hi)).1
  case featured_first =>
    intro i hi
    simpa using (find?_inRankOrder hperm horder (hfirst i hi)).2
  case best_first => exact hbest
  case rest_sorted => exact hrest

end Placement

namespace Assembler

variable {σ : Type} (a : Assembler σ) (enabled : Enablement) (hosts : List String)
  (now : Instant) (items : List Item)

theorem shuffled_eq :
    a.shuffled enabled hosts now items =
      (shuffleTop a.shuffler a.config.shuffleTop a.state
        (rankedItems Item.isArticle a.config enabled hosts now items)).1 := by
  rw [shuffled, parts, partition_articles]
  rfl

theorem featuredDeals_eq :
    (a.assemble enabled hosts now items).1.feed.featuredDeals =
      (rankedItems Item.isDeal a.config enabled hosts now items).take a.config.featuredDeals := by
  rw [assemble_feed, parts, partition_deals]
  rfl

/-- Drawing from the articles in their final order is drawing from their ranks in that order. -/
theorem exists_placement {articles : List Item} {order : List (Fin articles.length)}
    (horder : a.shuffled enabled hosts now items = order.map articles.get)
    (hperm : order.Perm (List.finRange articles.length)) :
    ∃ p : Placement articles, p.Describes (a.assemble enabled hosts now items).1 ∧
      p.featured = order.find? (fun i => (articles.get i).category == a.config.leadCategory) ∧
      p.headlines.Sublist order := by
  let lead := fun it : Item => it.category == a.config.leadCategory
  let rest := (Pool.draw (lead ∘ articles.get) 1 order).2
  let queue := categoryQueue a.config.leadCategory (a.shuffled enabled hosts now items)
  let run := slotRun articles.get a.config now a.config.maxPages queue rest
  -- the pages are drawn from what the featured article leaves, also by rank
  have hrest : rest.map articles.get = (a.pagePools enabled hosts now items).articles.items := by
    simp only [pagePools, drawFeatured_eq, horder, Pool.draw_map]
    rfl
  have hsplit : ((order.find? (lead ∘ articles.get)).toList ++ rest).Perm order := by
    rw [← Pool.draw_one]
    exact Pool.draw_perm _ _ _
  obtain ⟨hslots, hleft⟩ := drawPages_names a.config now a.config.maxPages
    (Rotation.ofItems a.config.leadCategory (a.shuffled enabled hosts now items)
      (a.parts enabled hosts now items).deals)
    (a.pagePools enabled hosts now items) articles.get hrest
  refine ⟨⟨order.find? (lead ∘ articles.get), run.1, run.2⟩, ⟨?_, hslots, hleft, ?_⟩, rfl, ?_⟩
  · rw [assemble_feed, horder, drawFeatured_eq, List.find?_map]
  · -- every rank is featured, or is in one slot, or is left
    rw [List.append_assoc]
    exact ((slotRun_perm articles.get a.config now a.config.maxPages queue rest).append_left
      _).trans (hsplit.trans hperm)
  · exact (slotRun_headlines_sublist articles.get a.config now a.config.maxPages queue rest).trans
      (Pool.draw_left_sublist _ _ _)

end Assembler

/-- Ranks are kept from the ranking to the feed, but for the shuffle of the best articles. Whatever
the input, the settings and the shuffler, the featured deals are the best deals in rank order; there
is a featured article if and only if an enabled article has the lead category; it is one of the best
`k` if any of them has it, and otherwise the best article that has it; and of all headlines, page
after page, the best `k` come first and all others follow in rank order. Without a shuffle, all
headlines are in rank order, so their keys never decrease. -/
theorem ranks_kept (c : Config) (enabled : Enablement) (hosts : List String) (now : Instant)
    (items : List Item) :
    let articles := rankedItems Item.isArticle c.sanitized enabled hosts now items
    let deals := rankedItems Item.isDeal c.sanitized enabled hosts now items
    let k := min c.shuffleTop ((enabled.filter items).filter Item.isArticle).length
    let lead := c.sanitized.leadCategory
    (∀ {σ : Type} (sh : Shuffler σ) (s : σ), sh.Permutes →
      let result := ((Assembler.ofConfig c sh s).assemble enabled hosts now items).1
      result.feed.featuredDeals = deals.take (min c.sanitized.featuredDeals deals.length) ∧
        (result.feed.featuredArticle.isSome = true ↔
          ∃ it ∈ enabled.filter items, it.isArticle = true ∧ it.category = lead) ∧
        ∃ p : Placement articles, p.Describes result ∧ p.KeepsRanks k lead) ∧
    (let result :=
        ((Assembler.ofConfig c Shuffler.identity ()).assemble enabled hosts now items).1
      ∃ p : Placement articles, p.Describes result ∧ p.headlines.Pairwise (· < ·) ∧
        (result.feed.pages.flatMap Page.headlines).Pairwise fun x y =>
          (x.sortKey c.sanitized).place ≤ (y.sortKey c.sanitized).place) := by
  intro articles deals k lead
  constructor
  · intro σ sh s hsh result
    let a := Assembler.ofConfig c sh s
    refine ⟨?_, a.featured_isSome_iff enabled hosts now items hsh, ?_⟩
    · have hdeals : result.feed.featuredDeals = deals.take c.sanitized.featuredDeals :=
        a.featuredDeals_eq enabled hosts now items
      rw [hdeals, List.take_eq_take_iff]
      simp
    · obtain ⟨order, hshuffled, hperm, horder⟩ :=
        exists_order_of_shuffle hsh c.shuffleTop s articles
      have hk : min c.shuffleTop articles.length = k :=
        congrArg (min c.shuffleTop)
          (length_rankedItems c.sanitized enabled hosts now items fun _ => rfl)
      rw [hk] at horder
      obtain ⟨p, hp, hfeatured, hheadlines⟩ :=
        a.exists_placement enabled hosts now items
          ((a.shuffled_eq enabled hosts now items).trans hshuffled) hperm
      exact ⟨p, hp, Placement.keepsRanks_of_order hperm horder hfeatured hheadlines⟩
  · intro result
    let a := Assembler.ofConfig c Shuffler.identity ()
    have hshuffled : a.shuffled enabled hosts now items =
        (List.finRange articles.length).map articles.get := by
      rw [List.map_get_finRange, Assembler.shuffled_eq]
      exact congrArg Prod.fst (shuffleTop_identity c.shuffleTop () articles)
    obtain ⟨p, hp, -, hheadlines⟩ :=
      a.exists_placement enabled hosts now items hshuffled (.refl _)
    refine ⟨p, hp, (List.pairwise_lt_finRange _).sublist hheadlines, ?_⟩
    -- so the headlines themselves are among the articles in rank order
    have hsub := hheadlines.map articles.get
    rw [List.map_get_finRange, ← hp.headlines_eq] at hsub
    exact (rankedItems_pairwise Item.isArticle c.sanitized enabled hosts now items).sublist hsub

theorem ranks_kept_sample :
    let c : Config := { shuffleTop := 2 }
    let items :=
      [sampleHeadline, sampleOtherHeadline, sampleDeal, sampleHeadline.withCategory "Top News"]
    let articles := rankedItems Item.isArticle c.sanitized sampleEnablement [] Instant.epoch items
    let result := ((Assembler.ofConfig c Shuffler.reversal ()).assemble sampleEnablement []
      Instant.epoch items).1
    Shuffler.reversal.Permutes ∧ articles.length = 3 ∧
      result.feed.featuredArticle.isSome = true ∧
      ∃ p : Placement articles, p.Describes result ∧ p.KeepsRanks 2 "Top News" := by
  intro c items articles result
  have hlength : articles.length = 3 :=
    (length_rankedItems c.sanitized sampleEnablement [] Instant.epoch items fun _ => rfl).trans
      (by decide)
  obtain ⟨-, hfeatured, hplaced⟩ := (ranks_kept c sampleEnablement [] Instant.epoch items).1
    Shuffler.reversal () Shuffler.reversal_permutes
  have hlead : c.sanitized.leadCategory = "Top News" := by decide
  rw [hlead] at hplaced
  exact ⟨Shuffler.reversal_permutes, hlength, hfeatured.mpr (by decide), hplaced⟩

end Newsfeed
