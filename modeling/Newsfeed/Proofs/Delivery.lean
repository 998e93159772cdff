import Newsfeed.Proofs.Snapshot

/-! # What an assembly reads of a delivery

Items are delivered in some order, and with some of the fields that an assembly fills in by itself
if they come from an earlier feed. Neither matters more than it has to:

* `rank_eq_of_ties`: a ranking depends on the order of delivery among items of one key only;
* `Item.delivered`: an item without what an assembly derives, and `prepare_delivered`: which is all
  that an assembly reads of it;
* `delivery_order_ignored`: the order of delivery and the order of the visited hosts;
* `derived_fields_ignored`: whatever stands in the derived fields.

Both say more than that the feeds are the same: the whole outcome is, with everything that is
reported and with the next state of the shuffler.
-/

namespace Newsfeed

/-- An assembly is determined by the ranked items, the number of items, and the numbers that the
ranking reports. -/
theorem Assembler.assemble_eq_of_parts_eq {σ : Type} (a : Assembler σ) {enabled : Enablement}
    {hosts hosts' : List String} {now : Instant} {items items' : List Item}
    (hparts : a.parts enabled hosts now items = a.parts enabled hosts' now items')
    (hlength : items.length = items'.length)
    (hkept : (enabled.filter items).length = (enabled.filter items').length)
    (hvisited : (enabled.filter items).countP (isVisited hosts) =
      (enabled.filter items').countP (isVisited hosts')) :
    a.assemble enabled hosts now items = a.assemble enabled hosts' now items' := by
  simp only [parts] at hparts
  simp only [assemble, rankSignals, Enablement.dropped, hparts, hlength, hkept, hvisited]

/-! ## The order of delivery -/

theorem isVisited_congr {hosts hosts' : List String} (h : ∀ host, host ∈ hosts ↔ host ∈ hosts') :
    isVisited hosts = isVisited hosts' := by
  funext it
  rw [Bool.eq_iff_iff, isVisited_iff, isVisited_iff]
  simp only [h]

theorem weigh_congr (c : Config) {hosts hosts' : List String}
    (h : ∀ host, host ∈ hosts ↔ host ∈ hosts') : Item.weigh c hosts = Item.weigh c hosts' := by
  funext it
  rw [Item.weigh, Item.weigh, Item.weightedScore, Item.weightedScore, isVisited_congr h]

/-- The items that rank as a key, in their order. -/
def itemsOfKey (c : Config) (hosts : List String) (key : Score) (items : List Item) : List Item :=
  items.filter fun it => (it.weigh c hosts).sortKey c = key

/-- Two lists with the same items of each key have the same ranking. -/
theorem rank_eq_of_ties (c : Config) (hosts : List String) {xs ys : List Item}
    (h : ∀ key, itemsOfKey c hosts key xs = itemsOfKey c hosts key ys) :
    rank c hosts xs = rank c hosts ys := by
  have hsorted := sorted_mergeSort (ranksBefore_iff c)
  apply eq_of_sorted_of_filter_key_eq (hsorted (xs.map (Item.weigh c hosts)))
    (hsorted (ys.map (Item.weigh c hosts)))
  intro place
  rw [filter_key_mergeSort (ranksBefore_iff c), filter_key_mergeSort (ranksBefore_iff c),
    List.filter_map, List.filter_map]
  congr 1
  by_cases hplace : ∃ key : Score, key.place = place
  · -- the items at this place are those of one key
    obtain ⟨key, rfl⟩ := hplace
    have htest : ((fun it : Item => decide ((it.sortKey c).place = key.place)) ∘
        Item.weigh c hosts) = fun it => decide ((it.weigh c hosts).sortKey c = key) := by
      funext it
      have hiff : ((it.weigh c hosts).sortKey c).place = key.place ↔
          (it.weigh c hosts).sortKey c = key :=
        ⟨Score.place_injective, congrArg Score.place⟩
      simp only [Function.comp_apply, hiff]
    rw [htest]
    exact h key
  · -- no score has this place
    have hnone : ∀ it : Item, ((it.weigh c hosts).sortKey c).place ≠ place :=
      fun it heq => hplace ⟨_, heq⟩
    simp [Function.comp_def, hnone]

/-- The order of a delivery matters among items of one key only, and the order and the repetitions
of the visited hosts do not matter at all. Keys are those of the sanitized settings; two keys are
the same if no bit differs, and an item without a score has the key of the settings. -/
theorem delivery_order_ignored {σ : Type} (c : Config) (sh : Shuffler σ) (s : σ)
    (enabled : Enablement) {hosts hosts' : List String} (now : Instant) {items items' : List Item}
    (hitems : items.Perm items')
    (hties : ∀ key, itemsOfKey c.sanitized hosts key (enabled.filter items) =
      itemsOfKey c.sanitized hosts key (enabled.filter items'))
    (hhosts : ∀ host, host ∈ hosts ↔ host ∈ hosts') :
    let a := Assembler.ofConfig c sh s
    a.assemble enabled hosts now items = a.assemble enabled hosts' now items' := by
  intro a
  have hkept : (enabled.filter items).Perm (enabled.filter items') := hitems.filter _
  apply a.assemble_eq_of_parts_eq
  case hparts =>
    have hrank : rank a.config hosts (enabled.filter items) =
        rank a.config hosts' (enabled.filter items') := by
      calc rank a.config hosts (enabled.filter items)
          = rank a.config hosts (enabled.filter items') := rank_eq_of_ties c.sanitized hosts hties
        _ = rank a.config hosts' (enabled.filter items') := by
            rw [rank, rank, weigh_congr a.config hhosts]
    rw [Assembler.parts, Assembler.parts, hrank]
  case hlength => exact hitems.length_eq
  case hkept => exact hkept.length_eq
  case hvisited =>
    rw [isVisited_congr hhosts]
    exact hkept.countP_eq _

/-- Two articles that rank alike, the first because it has no score, and one that ranks before
them. -/
def sampleTies : List Item :=
  let article := fun title => (Item.article title "").withPublisher "on" "On"
  [article "unscored", (article "last").withScore (Config.missingScore {}),
    (article "first").withScore .zero]

theorem delivery_order_ignored_sample :
    let a := Assembler.ofConfig {} (Shuffler.random Words.cyclic) (Words.Cycle.ofList [7, 1])
    let reordered := [sampleTies[0], sampleTies[2], sampleTies[1]]
    sampleTies.Perm reordered ∧
      itemsOfKey {} ["a", "b"] (Config.missingScore {}) sampleTies = sampleTies.take 2 ∧
      a.assemble sampleEnablement ["a", "b"] Instant.epoch sampleTies =
        a.assemble sampleEnablement ["b", "a", "b"] Instant.epoch reordered := by
  intro a reordered
  have hperm : sampleTies.Perm reordered := (List.Perm.swap _ _ _).cons _
  refine ⟨hperm, by decide, ?_⟩
  apply delivery_order_ignored {} (Shuffler.random Words.cyclic) (Words.Cycle.ofList [7, 1])
    sampleEnablement Instant.epoch hperm
  · intro key
    have hkeys : ∀ it ∈ sampleTies, (it.weigh (Config.sanitized {}) ["a", "b"]).sortKey
        (Config.sanitized {}) ∈ [Config.missingScore {}, .zero] := by decide
    have hkept : sampleEnablement.filter sampleTies = sampleTies := by decide
    have hkept' : sampleEnablement.filter reordered = reordered := by decide
    rw [hkept, hkept']
    by_cases hkey : key ∈ [Config.missingScore {}, .zero]
    · rcases List.mem_pair.mp hkey with rfl | rfl <;> decide
    · -- no item has another key
      have hnone : ∀ it ∈ sampleTies, (it.weigh (Config.sanitized {}) ["a", "b"]).sortKey
          (Config.sanitized {}) ≠ key := fun it hit heq => hkey (heq ▸ hkeys it hit)
      rw [itemsOfKey, itemsOfKey, List.filter_eq_nil_iff.mpr fun it hit => by simpa using hnone it hit,
        List.filter_eq_nil_iff.mpr fun it hit => by
          simpa using hnone it (hperm.mem_iff.mpr hit)]
  · intro host
    simp only [List.mem_cons, List.not_mem_nil]
    tauto

/-! ## Derived fields -/

namespace Item

/-- The item as it is delivered for the first time, without what an assembly derives. -/
def delivered (it : Item) : Item :=
  { it with image := "", points := none, relativeTime := none, publishedAt := none }

/-- Two items that differ at most in what an assembly derives. -/
def SameDelivery (x y : Item) : Prop :=
  x = { y with
    image := x.image
    points := x.points
    relativeTime := x.relativeTime
    publishedAt := x.publishedAt }

theorem SameDelivery.delivered_eq {x y : Item} (h : x.SameDelivery y) :
    x.delivered = y.delivered := by
  rw [SameDelivery] at h
  rw [h]
  rfl

/-- Every derived field is written before it is shown, whatever the item has in it. -/
theorem prepare_delivered (c : Config) (hosts : List String) (now : Instant) (it : Item) :
    it.delivered.prepare c hosts now = it.prepare c hosts now := by
  have hpublished : (it.delivered.weigh c hosts).publishTime = (it.weigh c hosts).publishTime := rfl
  simp only [prepare, normalize, hpublished]
  -- without a publish time, an instant and a label are taken away and not kept
  split <;> rfl

end Item

/-- Whether an item will stand before another once both have their points. -/
def Item.weighsBefore (c : Config) (hosts : List String) (x y : Item) : Bool :=
  (x.weigh c hosts).ranksBefore c (y.weigh c hosts)

/-- The ranked items as they are shown are the items in the order of the points that they will have,
each prepared. -/
theorem map_normalize_rank (c : Config) (hosts : List String) (now : Instant) (items : List Item) :
    (rank c hosts items).map (Item.normalize c now) =
      (items.mergeSort (Item.weighsBefore c hosts)).map (Item.prepare c hosts now) := by
  have hweigh : (items.mergeSort (Item.weighsBefore c hosts)).map (Item.weigh c hosts) =
      rank c hosts items := List.map_mergeSort fun _ _ _ _ => rfl
  rw [← hweigh, List.map_map]
  rfl

/-- The derived fields have no part in the ranking, nor in what is shown of it. -/
theorem map_normalize_rank_delivered (c : Config) (hosts : List String) (now : Instant)
    (items : List Item) :
    (rank c hosts (items.map Item.delivered)).map (Item.normalize c now) =
      (rank c hosts items).map (Item.normalize c now) := by
  have hprepare : Item.prepare c hosts now ∘ Item.delivered = Item.prepare c hosts now :=
    funext fun it => it.prepare_delivered c hosts now
  have hsort : (items.mergeSort (Item.weighsBefore c hosts)).map Item.delivered =
      (items.map Item.delivered).mergeSort (Item.weighsBefore c hosts) :=
    List.map_mergeSort fun _ _ _ _ => rfl
  rw [map_normalize_rank, map_normalize_rank, ← hsort, List.map_map, hprepare]

theorem map_delivered_eq {items items' : List Item} (h : List.Forall₂ Item.SameDelivery items items') :
    items.map Item.delivered = items'.map Item.delivered := by
  induction h with
  | nil => rfl
  | cons hsame _ ih => rw [List.map_cons, List.map_cons, hsame.delivered_eq, ih]

/-- An assembly of items as they are delivered for the first time is the assembly of the items as
they are. -/
theorem Assembler.assemble_delivered {σ : Type} (a : Assembler σ) (enabled : Enablement)
    (hosts : List String) (now : Instant) (items : List Item) :
    a.assemble enabled hosts now (items.map Item.delivered) =
      a.assemble enabled hosts now items := by
  -- neither the publisher nor the URL is a derived field
  have hkept : enabled.filter (items.map Item.delivered) =
      (enabled.filter items).map Item.delivered := by
    rw [Enablement.filter, Enablement.filter, List.filter_map]
    rfl
  apply a.assemble_eq_of_parts_eq
  case hparts =>
    have hshown := map_normalize_rank_delivered a.config hosts now (enabled.filter items)
    simp only [parts, partition, hkept, hshown]
  case hlength => exact List.length_map _
  case hkept => rw [hkept, List.length_map]
  case hvisited =>
    rw [hkept, List.countP_map]
    rfl

/-- What stands in the derived fields of a delivery has no influence: two deliveries that agree item
by item, but for the shown image, the points, the label and the instant of publication, have the
same outcome. -/
theorem derived_fields_ignored {σ : Type} (c : Config) (sh : Shuffler σ) (s : σ)
    (enabled : Enablement) (hosts : List String) (now : Instant) {items items' : List Item}
    (h : List.Forall₂ Item.SameDelivery items items') :
    let a := Assembler.ofConfig c sh s
    a.assemble enabled hosts now items = a.assemble enabled hosts now items' := by
  intro a
  calc a.assemble enabled hosts now items
      = a.assemble enabled hosts now (items.map Item.delivered) :=
        (a.assemble_delivered enabled hosts now items).symm
    _ = a.assemble enabled hosts now (items'.map Item.delivered) := by rw [map_delivered_eq h]
    _ = a.assemble enabled hosts now items' := a.assemble_delivered enabled hosts now items'

theorem derived_fields_ignored_sample :
    let a := Assembler.ofConfig {} (Shuffler.random Words.cyclic) (Words.Cycle.ofList [7, 1])
    let stale := sampleTies.map fun it =>
      { it with
        image := "stale"
        points := some .zero
        relativeTime := some "1 day ago"
        publishedAt := some Instant.epoch }
    List.Forall₂ Item.SameDelivery stale sampleTies ∧ stale ≠ sampleTies ∧
      a.assemble sampleEnablement [] Instant.epoch stale =
        a.assemble sampleEnablement [] Instant.epoch sampleTies := by
  intro a stale
  have hsame : List.Forall₂ Item.SameDelivery stale sampleTies :=
    .cons rfl (.cons rfl (.cons rfl .nil))
  exact ⟨hsame, by decide, derived_fields_ignored {} (Shuffler.random Words.cyclic)
    (Words.Cycle.ofList [7, 1]) sampleEnablement [] Instant.epoch hsame⟩

end Newsfeed
