import Newsfeed.Proofs.Conservation
import Newsfeed.Proofs.StableSort

/-! # What an assembly reads of its snapshot

Some items never make it into a feed: those of publishers that are not on, and those of a kind that
a feed does not place. The former are dropped before the ranking, but the latter are ranked among
all others and dropped afterwards. Since the ranking is stable, none of them leaves a trace.

* `parts_articles`, `parts_deals`: each kind is ranked as if it were alone;
* `assemble_congr`: the articles and deals of enabled publishers determine the outcome;
* `EditedBy`: putting some entries into a list and taking some out;
* `unplaced_items_ignored`: items that are never placed have no influence on a feed.
-/

namespace Newsfeed

/-! ## Each kind on its own -/

namespace Assembler

variable {σ : Type} (a : Assembler σ) (enabled enabled' : Enablement) (hosts : List String)
  (now : Instant) (items items' : List Item)

theorem parts_articles :
    (a.parts enabled hosts now items).articles =
      (rank a.config hosts ((enabled.filter items).filter Item.isArticle)).map
        (Item.normalize a.config now) := by
  rw [parts, partition_articles, rank_filter a.config hosts fun _ => rfl]

theorem parts_deals :
    (a.parts enabled hosts now items).deals =
      (rank a.config hosts ((enabled.filter items).filter Item.isDeal)).map
        (Item.normalize a.config now) := by
  rw [parts, partition_deals, rank_filter a.config hosts fun _ => rfl]

/-- A snapshot that is in rank order already needs no ranking. -/
theorem assemble_feed_of_sorted
    (h : ((enabled.filter items).map (Item.weigh a.config hosts)).Pairwise fun x y =>
      x.ranksBefore a.config y = true) :
    let parts := partition a.config now ((enabled.filter items).map (Item.weigh a.config hosts))
    let articles := (shuffleTop a.shuffler a.config.shuffleTop a.state parts.articles).1
    (a.assemble enabled hosts now items).1.feed =
      (arrange a.config now articles parts.deals).1 := by
  simp only [assemble, rank_of_sorted a.config hosts h]

theorem parts_articles_congr
    (h : (enabled.filter items).filter Item.isArticle =
      (enabled'.filter items').filter Item.isArticle) :
    (a.parts enabled hosts now items).articles = (a.parts enabled' hosts now items').articles := by
  rw [parts_articles, parts_articles, h]

theorem assemble_state :
    (a.assemble enabled hosts now items).2.state =
      (shuffleTop a.shuffler a.config.shuffleTop a.state
        (a.parts enabled hosts now items).articles).2 :=
  rfl

/-- The articles and deals of enabled publishers, each in their order, determine the feed and the
state of the shuffler. -/
theorem assemble_congr
    (harticles : (enabled.filter items).filter Item.isArticle =
      (enabled'.filter items').filter Item.isArticle)
    (hdeals : (enabled.filter items).filter Item.isDeal =
      (enabled'.filter items').filter Item.isDeal) :
    (a.assemble enabled hosts now items).1.feed = (a.assemble enabled' hosts now items').1.feed ∧
      (a.assemble enabled hosts now items).2.state =
        (a.assemble enabled' hosts now items').2.state := by
  have hrankedArticles := a.parts_articles_congr enabled enabled' hosts now items items' harticles
  have hrankedDeals : (a.parts enabled hosts now items).deals =
      (a.parts enabled' hosts now items').deals := by
    rw [parts_deals, parts_deals, hdeals]
  constructor
  · simp only [assemble_feed, pageRun, pagePools, shuffled, hrankedArticles, hrankedDeals]
  · rw [assemble_state, assemble_state, hrankedArticles]

end Assembler

/-! ## Items that are never placed -/

/-- The second list is the first one after entries of a sort have been put in and taken out, at any
places. All other entries stay as they are. -/
inductive EditedBy {α : Type} (free : α → Prop) : List α → List α → Prop where
  | nil : EditedBy free [] []
  | keep {xs ys : List α} (a : α) : EditedBy free xs ys → EditedBy free (a :: xs) (a :: ys)
  | insert {xs ys : List α} {a : α} : free a → EditedBy free xs ys → EditedBy free xs (a :: ys)
  | delete {xs ys : List α} {a : α} : free a → EditedBy free xs ys → EditedBy free (a :: xs) ys

/-- Edits cannot be seen through a test that no edited entry passes. -/
theorem EditedBy.filter_eq {α : Type} {free : α → Prop} {test : α → Bool} {xs ys : List α}
    (h : EditedBy free xs ys) (hfree : ∀ a, free a → test a = false) :
    xs.filter test = ys.filter test := by
  induction h with
  | nil => rfl
  | keep a h ih => rw [List.filter_cons, List.filter_cons, ih]
  | insert ha h ih => rw [List.filter_cons_of_neg (by simp [hfree _ ha]), ih]
  | delete ha h ih => rw [List.filter_cons_of_neg (by simp [hfree _ ha]), ih]

/-- The items that are never placed: those whose publisher is off or not listed, and those that are
neither articles nor deals. -/
def Item.IsUnplaced (enabled : Enablement) (it : Item) : Prop :=
  enabled.get? it.publisherId ≠ some true ∨ it.kind = .other

theorem Enablement.filter_congr {enabled enabled' : Enablement}
    (h : ∀ id, enabled.get? id = some true ↔ enabled'.get? id = some true) (items : List Item) :
    enabled.filter items = enabled'.filter items := by
  have hon : enabled.isOn = enabled'.isOn := by
    funext id
    rw [Bool.eq_iff_iff, isOn, isOn, beq_iff_eq, beq_iff_eq]
    exact h id
  rw [filter, filter, hon]

/-- A test that only a kind other than `other` passes does not see unplaced items. -/
theorem filter_enabled_eq_of_editedBy {enabled : Enablement} {kind : Item → Bool}
    (hkind : ∀ it : Item, it.kind = .other → kind it = false) {items items' : List Item}
    (h : EditedBy (Item.IsUnplaced enabled) items items') :
    (enabled.filter items).filter kind = (enabled.filter items').filter kind := by
  rw [Enablement.filter, Enablement.filter, List.filter_filter, List.filter_filter]
  apply h.filter_eq
  -- an unplaced item fails one of the two tests
  rintro it (hoff | hother)
  · simp [Enablement.isOn, hoff]
  · simp [hkind it hother]

/-- Items of publishers that are not on and items of a kind that a feed does not place have no
influence: however many of them are put into a snapshot or taken out of it, and wherever, the feed
and the next state of the shuffler are the same. Nor does it matter what an enablement says of a
publisher other than whether it is on. -/
theorem unplaced_items_ignored {σ : Type} (c : Config) (sh : Shuffler σ) (s : σ)
    (hosts : List String) (now : Instant) :
    let a := Assembler.ofConfig c sh s
    (∀ (enabled : Enablement) (items items' : List Item),
      EditedBy (Item.IsUnplaced enabled) items items' →
      (a.assemble enabled hosts now items).1.feed = (a.assemble enabled hosts now items').1.feed ∧
        (a.assemble enabled hosts now items).2.state =
          (a.assemble enabled hosts now items').2.state) ∧
    (∀ (enabled enabled' : Enablement) (items : List Item),
      (∀ id, enabled.get? id = some true ↔ enabled'.get? id = some true) →
      (a.assemble enabled hosts now items).1.feed = (a.assemble enabled' hosts now items).1.feed ∧
        (a.assemble enabled hosts now items).2.state =
          (a.assemble enabled' hosts now items).2.state) := by
  intro a
  constructor
  · intro enabled items items' h
    apply a.assemble_congr
    · exact filter_enabled_eq_of_editedBy (fun it hother => by simp [Item.isArticle, hother]) h
    · exact filter_enabled_eq_of_editedBy (fun it hother => by simp [Item.isDeal, hother]) h
  · intro enabled enabled' items h
    apply a.assemble_congr <;> rw [Enablement.filter_congr h items]

theorem unplaced_items_ignored_sample :
    let a := Assembler.ofConfig {} (Shuffler.random Words.cyclic) (Words.Cycle.ofList [7, 1])
    let placed := sampleSnapshot.take 3
    let shorter : Enablement := ⟨[("on", true)]⟩
    EditedBy (Item.IsUnplaced sampleEnablement) sampleSnapshot placed ∧
      (a.assemble sampleEnablement [] Instant.epoch sampleSnapshot).1.feed =
        (a.assemble sampleEnablement [] Instant.epoch placed).1.feed ∧
      (a.assemble sampleEnablement [] Instant.epoch placed).1.feed =
        (a.assemble shorter [] Instant.epoch placed).1.feed := by
  intro a placed shorter
  have hedit : EditedBy (Item.IsUnplaced sampleEnablement) sampleSnapshot placed :=
    .keep _ (.keep _ (.keep _ (.delete (Or.inr rfl) (.delete (Or.inl (by decide)) .nil))))
  have hsame : ∀ id, sampleEnablement.get? id = some true ↔ shorter.get? id = some true := by
    intro id
    simp [sampleEnablement, shorter, Enablement.get?, Enablement.lookup_cons]
  obtain ⟨hitems, henabled⟩ := unplaced_items_ignored {} (Shuffler.random Words.cyclic)
    (Words.Cycle.ofList [7, 1]) [] Instant.epoch
  exact ⟨hedit, (hitems sampleEnablement sampleSnapshot placed hedit).1,
    (henabled sampleEnablement shorter placed hsame).1⟩

end Newsfeed
