import Newsfeed.Proofs.Distances
import Newsfeed.Proofs.HistorySignal
import Newsfeed.Proofs.Renormalization
import Newsfeed.Proofs.WellFormed

/-! # Labels of recent articles

An article is labelled when its display fields are filled in, and it is placed among the recent ones
when a page is drawn. Both look at the same clock and at the same instant, the one that its publish
time is read as. A longer distance never reads as a shorter one, so no recent article carries a
label beyond that of the window.

* `Item.publishedAt_prepare`, `Item.relativeTime_prepare`: instant and label as the feed shows them;
* `Distance.NoLater`: the order of the labels, with `noLater_ofSeconds`: fewer seconds, no later label;
* `Feed.mem_items_of_mem_recent`: recent articles are listed, so they come from the snapshot;
* `recent_labels_fit`: the labels of all recent articles of a feed.
-/

namespace Newsfeed

/-! ## The fields of a prepared item -/

namespace Item

variable (c : Config) (hosts : List String) (now : Instant) (it : Item)

/-- An item is shown with the instant that its publish time is read as. -/
theorem publishedAt_prepare :
    (it.prepare c hosts now).publishedAt = readPublishTime? it.publishTime := by
  rw [prepare, normalize_eq]
  rfl

/-- An item that is shown with an instant is labelled with the distance from it. -/
theorem relativeTime_prepare {t : Instant} (h : (it.prepare c hosts now).publishedAt = some t) :
    (it.prepare c hosts now).relativeTime = some ((Distance.between t now).text ++ " ago") := by
  rw [publishedAt_prepare] at h
  rw [prepare, normalize_eq]
  change (readPublishTime? it.publishTime).map (relativeLabel · now) = _
  rw [h, Option.map_some, relativeLabel]

end Item

/-! ## The order of labels -/

namespace Distance

/-- In the chain of distances, one text does not come after another: both stand in it, and their
places are in this order. -/
def NoLater (label limit : String) : Prop :=
  (∃ i, label = (link i).text) ∧ (∃ j, limit = (link j).text) ∧
    ∀ i j, label = (link i).text → limit = (link j).text → i ≤ j

/-- No two places of the chain have the same text, so it is enough to look at one place for each. -/
theorem noLater_link {i j : Nat} : NoLater (link i).text (link j).text ↔ i ≤ j := by
  constructor
  · rintro ⟨-, -, hplaces⟩
    exact hplaces i j rfl rfl
  · intro hle
    refine ⟨⟨i, rfl⟩, ⟨j, rfl⟩, ?_⟩
    intro i' j' hi hj
    have hi' : i = i' := link_injective (text_injective hi)
    have hj' : j = j' := link_injective (text_injective hj)
    rwa [← hi', ← hj']

/-- Fewer seconds do not come after more. -/
theorem noLater_ofSeconds {s limit : Nat} (hlimit : limit < 2 ^ 51) (hle : s ≤ limit) :
    NoLater (ofSeconds s).text (ofSeconds limit).text := by
  have hbucket := bucket_ofSeconds (lt_of_le_of_lt hle hlimit)
  have hbucket' := bucket_ofSeconds hlimit
  have hminutes : (s + 30) / 60 ≤ (limit + 30) / 60 := by omega
  rw [← hbucket.link_position, ← hbucket'.link_position, noLater_link]
  exact hbucket.position_le hbucket' hminutes

end Distance

/-! ## Recent articles -/

/-- The recent articles of a page are listed in the feed. -/
theorem Feed.mem_items_of_mem_recent {feed : Feed} {page : Page} {it : Item}
    (hpage : page ∈ feed.pages) (hit : it ∈ page.recent) : it ∈ feed.items := by
  have hitems : it ∈ page.items := List.mem_append_right _ hit
  exact List.mem_append_right _ (List.mem_flatMap_of_mem hpage hitems)

/-- Every recent article of an assembled feed is an item of the snapshot whose publish time can be
read. It is shown with the instant that this time is read as, and labelled with the distance from
that instant to the present. In the chain of distances, the label does not come after the distance
of the whole window; for a window of 48 hours, it does not come after two days. -/
theorem recent_labels_fit {σ : Type} (c : Config) {sh : Shuffler σ} (hsh : sh.Permutes) (s : σ)
    (enabled : Enablement) (hosts : List String) (now : Instant) (items : List Item) :
    let hours := c.sanitized.recentWindowHours
    let feed := ((Assembler.ofConfig c sh s).assemble enabled hosts now items).1.feed
    ∀ page ∈ feed.pages, ∀ it ∈ page.recent,
      ∃ raw ∈ items, it = raw.prepare c.sanitized hosts now ∧
        it.publishedAt = readPublishTime? raw.publishTime ∧
        ∃ t, it.publishedAt = some t ∧
          it.relativeTime = some ((Distance.between t now).text ++ " ago") ∧
          Distance.NoLater (Distance.between t now).text
            (Distance.ofSeconds (hours.toNat * 3600)).text ∧
          (hours = 48 → Distance.NoLater (Distance.between t now).text "2 days") := by
  intro hours feed page hpage it hit
  let a := Assembler.ofConfig c sh s
  have hvalid : c.sanitized.IsValid := c.isValid_sanitized
  -- what is listed comes from the snapshot
  have hlisted := Feed.mem_items_of_mem_recent hpage hit
  obtain ⟨raw, hraw, hprepared⟩ : ∃ raw ∈ items, it = raw.prepare c.sanitized hosts now :=
    a.exists_prepare_of_mem_items enabled hosts now items hsh hlisted
  -- and the slot bounds its distance
  have hwell := a.pages_isWellFormed enabled hosts now items hvalid hsh page hpage
  rcases (hwell.recent it hit).2 with ⟨t, hpublished, hapart⟩
  have hhours : (now.secondsApart t : Int) < hours * 3600 := hapart
  have hlimit : hours ≤ 8760 := hvalid.window_le
  have hfits : Distance.NoLater (Distance.between t now).text
      (Distance.ofSeconds (hours.toNat * 3600)).text :=
    Distance.noLater_ofSeconds (by omega) (by omega)
  subst hprepared
  refine ⟨raw, hraw, rfl, raw.publishedAt_prepare c.sanitized hosts now, t, hpublished,
    raw.relativeTime_prepare c.sanitized hosts now hpublished, hfits, ?_⟩
  intro htwo
  rw [htwo] at hfits
  exact hfits

/-- A headline, and an article that was published half an hour after the start of 1970. -/
def sampleRecent : List Item :=
  [((Item.article "headline" "").withImage "image").withPublisher "on" "On",
    { (Item.article "recent" "").withPublisher "on" "On" with
      publishTime := "1970-01-01 00:30:00" }]

theorem recent_labels_fit_sample :
    let feed := fun hours : Int =>
      ((Assembler.ofConfig { groupSize := 0, recentWindowHours := hours } Shuffler.reversal
        ()).assemble sampleEnablement [] Instant.epoch sampleRecent).1.feed
    let showsHalfHour := fun (hours : Int) (limit : String) =>
      ∃ page ∈ (feed hours).pages, ∃ it ∈ page.recent, it.relativeTime = some "30 minutes ago" ∧
        ∃ t, it.relativeTime = some ((Distance.between t Instant.epoch).text ++ " ago") ∧
          Distance.NoLater (Distance.between t Instant.epoch).text limit
    Shuffler.reversal.Permutes ∧ showsHalfHour 1 "about 1 hour" ∧ showsHalfHour 48 "2 days" := by
  intro feed showsHalfHour
  have hsh : Shuffler.reversal.Permutes := Shuffler.reversal_permutes
  refine ⟨hsh, ?_, ?_⟩
  · obtain ⟨page, hpage, it, hit, hlabel⟩ : ∃ page ∈ (feed 1).pages, ∃ it ∈ page.recent,
        it.relativeTime = some "30 minutes ago" := by
      simp only [feed]
      rw [Assembler.assemble_feed_of_sorted _ _ _ _ _ (by decide)]
      decide
    obtain ⟨-, -, -, -, t, -, htext, hfits, -⟩ := recent_labels_fit
      { groupSize := 0, recentWindowHours := 1 } hsh () sampleEnablement [] Instant.epoch
      sampleRecent page hpage it hit
    have hwindow : (Distance.ofSeconds 3600).text = "about 1 hour" := by decide
    exact ⟨page, hpage, it, hit, hlabel, t, htext, hwindow ▸ hfits⟩
  · obtain ⟨page, hpage, it, hit, hlabel⟩ : ∃ page ∈ (feed 48).pages, ∃ it ∈ page.recent,
        it.relativeTime = some "30 minutes ago" := by
      simp only [feed]
      rw [Assembler.assemble_feed_of_sorted _ _ _ _ _ (by decide)]
      decide
    obtain ⟨-, -, -, -, t, -, htext, -, hdays⟩ := recent_labels_fit
      { groupSize := 0, recentWindowHours := 48 } hsh () sampleEnablement [] Instant.epoch
      sampleRecent page hpage it hit
    exact ⟨page, hpage, it, hit, hlabel, t, htext, hdays (by decide)⟩

end Newsfeed
