import Newsfeed.Proofs.Stages

/-! # Conservation

An assembly places every item of a kind that a feed shows exactly once, or leaves it in a pool.
Featured items and the slots of every page are draws from two pools that nothing is put back into,
so what the feed lists and what is left over are together the prepared snapshot, item for item.
-/

namespace Newsfeed

namespace Assembler

variable {σ : Type} (a : Assembler σ) (enabled : Enablement) (hosts : List String)
  (now : Instant) (items : List Item)

/-- What the feed lists and what is left over are the items of the snapshot that a feed places. -/
theorem items_perm (hsh : a.shuffler.Permutes) :
    ((a.assemble enabled hosts now items).1.feed.items ++
      (a.assemble enabled hosts now items).1.left.articles.items ++
      (a.assemble enabled hosts now items).1.left.deals.items).Perm
      ((items.filter fun it => it.isPlaceable && enabled.isOn it.publisherId).map
        (Item.prepare a.config hosts now)) := by
  have harticles := articles_perm a enabled hosts now items hsh
  have hdeals := deals_perm a enabled hosts now items
  have hkinds := (filter_isPlaceable_perm (enabled.filter items)).map
    (Item.prepare a.config hosts now)
  rw [List.map_append, Enablement.filter, List.filter_filter (p := Item.isPlaceable)] at hkinds
  generalize (a.assemble enabled hosts now items).1.feed = feed at *
  generalize (a.assemble enabled hosts now items).1.left = left at *
  -- the leftover articles move past the deals of the feed
  have hmove : (feed.deals ++ left.articles.items).Perm (left.articles.items ++ feed.deals) :=
    List.perm_append_comm
  have hlisted : (feed.items ++ left.articles.items ++ left.deals.items).Perm
      (feed.articles ++ feed.deals ++ left.articles.items ++ left.deals.items) :=
    (feed.items_perm.append_right _).append_right _
  have hsides : (feed.articles ++ feed.deals ++ left.articles.items ++ left.deals.items).Perm
      ((feed.articles ++ left.articles.items) ++ (feed.deals ++ left.deals.items)) := by
    simpa only [List.append_assoc] using
      (hmove.append_right left.deals.items).append_left feed.articles
  exact hlisted.trans (hsides.trans ((harticles.append hdeals).trans hkinds))

end Assembler

/-- Whatever the settings, and for every shuffler that permutes, a feed and the two leftover pools
hold the prepared articles and deals of enabled publishers, each as often as the snapshot does. The
pages and the leftover pools come from one run over `pagePools`, and a leftover pool is the pool
that this run started from, in its order, with some items gone. -/
theorem assemble_conserves {σ : Type} (c : Config) {sh : Shuffler σ} (hsh : sh.Permutes) (s : σ)
    (enabled : Enablement) (hosts : List String) (now : Instant) (items : List Item) :
    let a := Assembler.ofConfig c sh s
    let result := (a.assemble enabled hosts now items).1
    (result.feed.items ++ result.left.articles.items ++ result.left.deals.items).Perm
        ((items.filter fun it => it.isPlaceable && enabled.isOn it.publisherId).map
          (Item.prepare c.sanitized hosts now)) ∧
      (∃ rotation,
        let run := drawPages c.sanitized now c.sanitized.maxPages rotation
          (a.pagePools enabled hosts now items)
        result.feed.pages = run.pages ∧ result.left = run.left) ∧
      result.left.articles.items.Sublist (a.pagePools enabled hosts now items).articles.items ∧
      result.left.deals.items.Sublist (a.pagePools enabled hosts now items).deals.items := by
  intro a result
  refine ⟨a.items_perm enabled hosts now items hsh, ⟨_, rfl, rfl⟩, ?_, ?_⟩
  · exact drawPages_articles_sublist _ _ _ _ _
  · exact drawPages_deals_sublist _ _ _ _ _

/-- Items of every fate: a featured article, a headline, a deal, an item of no kind that a feed
places, and an article of a publisher that is off. -/
def sampleSnapshot : List Item :=
  [((Item.article "lead" "").withCategory "Top News").withPublisher "on" "On",
    ((Item.article "headline" "").withImage "image").withPublisher "on" "On",
    (Item.deal "deal" "" "Books").withPublisher "on" "On",
    { kind := .other, publisherId := "on" },
    ((Item.article "hidden" "").withImage "image").withPublisher "off" "Off"]

/-- One publisher that is on and one that is off. -/
def sampleEnablement : Enablement := ⟨[("on", true), ("off", false)]⟩

theorem assemble_conserves_sample :
    let a := Assembler.ofConfig {} Shuffler.reversal ()
    let result := (a.assemble sampleEnablement [] Instant.epoch sampleSnapshot).1
    Shuffler.reversal.Permutes ∧
      (result.feed.items ++ result.left.articles.items ++ result.left.deals.items).length = 3 := by
  intro a result
  refine ⟨Shuffler.reversal_permutes, ?_⟩
  have h := (assemble_conserves {} Shuffler.reversal_permutes () sampleEnablement []
    Instant.epoch sampleSnapshot).1
  have hplaceable : (sampleSnapshot.filter fun it =>
      it.isPlaceable && sampleEnablement.isOn it.publisherId) = sampleSnapshot.take 3 := by decide
  rw [hplaceable] at h
  exact h.length_eq

end Newsfeed
