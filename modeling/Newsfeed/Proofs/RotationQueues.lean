import Mathlib.Data.List.Induction
import Mathlib.Data.List.Nodup
import Mathlib.Data.Nat.Basic
import Newsfeed.Proofs.StableSort
import Newsfeed.Rotation

/-! # The queues of the rotation

A queue is made in two passes: the keys are counted one after the other, each new one at the end of
the counts, and then the counts are sorted. The sort is stable, so a queue is the list of keys in
order of first appearance, sorted by how often they occur.

* `Tally.Counts`, `exists_ofKeys?_counts`, `countInOrder_eq`: every key has one entry, with its count,
  in order of first appearance;
* `rarestFirst_eq`: a queue is the list of these keys, sorted by their counts;
* `nodup_rarestFirst`, `mem_rarestFirst_iff`, `rarestFirst_ordered`: every non-empty key is in a
  queue, only once, and behind all keys that are rarer or as rare and earlier;
* `nodup_categoryQueue`, `categoryQueue_pairwise`: the same for the queue of categories, which the
  lead category opens, and the order of the others;
* `IsRotation`: what a queue is to the items that it is made of, with `queues_rarest_first` for both
  queues, and `mem_dealQueue_iff`: no other items but deals have a part in theirs.
-/

namespace Newsfeed

/-! ## Counting -/

/-- Giving one entry of a list the value that it has under another function. -/
theorem set_map_of_nodup {α β : Type} {xs : List α} (hxs : xs.Nodup) {i : Nat} {a : α}
    (hi : xs[i]? = some a) {f g : α → β} (hfg : ∀ b, b ≠ a → f b = g b) :
    (xs.map f).set i (g a) = xs.map g := by
  obtain ⟨hlt, rfl⟩ := List.getElem?_eq_some_iff.mp hi
  apply List.ext_getElem (by simp)
  intro j hj hj'
  by_cases hij : i = j
  · subst hij
    simp
  · have hjlt : j < xs.length := by simpa using hj'
    have hne : xs[j] ≠ xs[i] := fun heq => hij (hxs.getElem_inj_iff.mp heq).symm
    rw [List.getElem_set_of_ne hij, List.getElem_map, List.getElem_map, hfg _ hne]

/-- One more key is new or has appeared before. -/
theorem eraseDups_concat (keys : List String) (key : String) :
    (keys ++ [key]).eraseDups =
      if key ∈ keys then keys.eraseDups else keys.eraseDups ++ [key] := by
  rw [List.eraseDups_append]
  by_cases hkey : key ∈ keys
  · simp [List.removeAll, hkey]
  · simp [List.removeAll, hkey, List.eraseDups_cons]

theorem nodup_eraseDups (keys : List String) : keys.eraseDups.Nodup := by
  induction keys using List.reverseRecOn with
  | nil => simp
  | append_singleton keys key ih =>
      rw [eraseDups_concat]
      split
      · exact ih
      · rename_i hnew
        have hdisjoint : ∀ k ∈ keys.eraseDups, ∀ l ∈ [key], k ≠ l := by
          rintro k hk l hl rfl
          obtain rfl := List.mem_singleton.mp hl
          exact hnew (List.mem_eraseDups.mp hk)
        exact List.nodup_append.mpr ⟨ih, by simp, hdisjoint⟩

/-- Of two keys, the one that appears first stands first. -/
theorem eraseDups_pairwise (keys : List String) :
    keys.eraseDups.Pairwise fun u v => keys.idxOf u < keys.idxOf v := by
  induction keys using List.reverseRecOn with
  | nil => simp
  | append_singleton keys key ih =>
      -- a key at the end changes no first appearance of the keys before it
      have hearlier : keys.eraseDups.Pairwise fun u v =>
          (keys ++ [key]).idxOf u < (keys ++ [key]).idxOf v := by
        apply ih.imp_of_mem
        intro u v hu hv hlt
        rw [List.idxOf_append_of_mem (List.mem_eraseDups.mp hu),
          List.idxOf_append_of_mem (List.mem_eraseDups.mp hv)]
        exact hlt
      rw [eraseDups_concat]
      split
      · exact hearlier
      · rename_i hnew
        refine List.pairwise_append.mpr ⟨hearlier, List.pairwise_singleton _ _, ?_⟩
        intro u hu v hv
        have hmem := List.mem_eraseDups.mp hu
        obtain rfl := List.mem_singleton.mp hv
        rw [List.idxOf_append_of_mem hmem, List.idxOf_append_of_notMem hnew]
        exact Nat.lt_add_right _ (List.idxOf_lt_length_of_mem hmem)

/-- A tally counts some keys: the index is right, and each key has one entry, with its count, in
order of first appearance. -/
structure Tally.Counts (t : Tally) (keys : List String) : Prop where
  indexed : t.IsIndexed
  entries_eq : t.entries = keys.eraseDups.map fun k => (k, keys.count k)

namespace Tally.Counts

variable {t : Tally} {keys : List String}

theorem keys_eq (h : t.Counts keys) : t.keys = keys.eraseDups := by
  rw [Tally.keys, h.entries_eq, List.map_map]
  exact List.map_id _

/-- The index knows the keys that have been counted. -/
theorem lookup_eq_some_iff (h : t.Counts keys) {key : String} {i : Nat} :
    t.index.lookup key = some i ↔ keys.eraseDups[i]? = some key := by
  rw [h.indexed key i, h.keys_eq]

/-- A key that has been counted before is counted in its entry. -/
theorem count?_of_lookup_eq_some (h : t.Counts keys) {key : String} {i : Nat}
    (hlookup : t.index.lookup key = some i) :
    ∃ t', t.count? key = some t' ∧ t'.Counts (keys ++ [key]) := by
  obtain ⟨t', n, hcount, hindexed, hentry, hset⟩ :=
    Tally.count?_of_lookup_eq_some h.indexed hlookup
  have hi := h.lookup_eq_some_iff.mp hlookup
  have hkey : key ∈ keys := List.mem_eraseDups.mp (List.mem_of_getElem? hi)
  have hn : n + 1 = (keys ++ [key]).count key := by
    rw [h.entries_eq, List.getElem?_map, hi] at hentry
    simp only [Option.map_some, Option.some.injEq, Prod.mk.injEq, true_and] at hentry
    simp [List.count_append, hentry]
  refine ⟨t', hcount, hindexed, ?_⟩
  -- no key is new, and the counts of the other keys stay what they are
  rw [eraseDups_concat, if_pos hkey, hset, h.entries_eq, hn]
  apply set_map_of_nodup (nodup_eraseDups keys) hi (g := fun k => (k, (keys ++ [key]).count k))
  intro k hk
  simp [List.count_append, Ne.symm hk]

/-- A key that has not been counted before gets the last entry. -/
theorem count?_of_lookup_eq_none (h : t.Counts keys) {key : String}
    (hlookup : t.index.lookup key = none) :
    ∃ t', t.count? key = some t' ∧ t'.Counts (keys ++ [key]) := by
  obtain ⟨t', hcount, hindexed, happend⟩ :=
    Tally.count?_of_lookup_eq_none h.indexed hlookup
  -- a key that has been counted has an entry, which the index points at
  have hkey : key ∉ keys := by
    intro hmem
    obtain ⟨i, hi⟩ := List.getElem?_of_mem (List.mem_eraseDups.mpr hmem)
    rw [h.lookup_eq_some_iff.mpr hi] at hlookup
    cases hlookup
  refine ⟨t', hcount, hindexed, ?_⟩
  rw [eraseDups_concat, if_neg hkey, happend, h.entries_eq, List.map_append]
  congr 1
  · apply List.map_congr_left
    intro k hk
    have hne : key ≠ k := by
      rintro rfl
      exact hkey (List.mem_eraseDups.mp hk)
    simp [List.count_append, hne]
  · simp [List.count_append, List.count_eq_zero_of_not_mem hkey]

/-- Counting one more key gives a count of the keys with this one behind them. -/
theorem exists_count? (h : t.Counts keys) (key : String) :
    ∃ t', t.count? key = some t' ∧ t'.Counts (keys ++ [key]) := by
  cases hlookup : t.index.lookup key with
  | none => exact h.count?_of_lookup_eq_none hlookup
  | some i => exact h.count?_of_lookup_eq_some hlookup

end Tally.Counts

/-- Counting keys one after the other gives a count of all of them. -/
theorem exists_ofKeys?_counts (keys : List String) :
    ∃ t, Tally.ofKeys? keys = some t ∧ t.Counts keys := by
  induction keys using List.reverseRecOn with
  | nil => exact ⟨{}, rfl, Tally.isIndexed_empty, by simp⟩
  | append_singleton keys key ih =>
      obtain ⟨t, ht, hcounts⟩ := ih
      obtain ⟨t', hcount, hcounts'⟩ := hcounts.exists_count? key
      refine ⟨t', ?_, hcounts'⟩
      rw [Tally.ofKeys?] at ht
      rw [Tally.ofKeys?, List.foldlM_append, ht]
      simpa using hcount

theorem countInOrder_eq (keys : List String) :
    countInOrder keys =
      (keys.filter (· ≠ "")).eraseDups.map fun k => (k, (keys.filter (· ≠ "")).count k) := by
  obtain ⟨t, ht, hcounts⟩ := exists_ofKeys?_counts (keys.filter (· ≠ ""))
  simp only [countInOrder, ht, Option.get_some, hcounts.entries_eq]

/-! ## Queues -/

/-- A queue is the list of the non-empty keys in order of first appearance, sorted by their
counts. -/
theorem rarestFirst_eq (keys : List String) :
    rarestFirst keys =
      (keys.filter (· ≠ "")).eraseDups.mergeSort fun u v =>
        (keys.filter (· ≠ "")).count u ≤ (keys.filter (· ≠ "")).count v := by
  have hsort : ((countInOrder keys).mergeSort fun a b => a.2 ≤ b.2).map (·.1) =
      ((countInOrder keys).map (·.1)).mergeSort fun u v =>
        (keys.filter (· ≠ "")).count u ≤ (keys.filter (· ≠ "")).count v := by
    apply List.map_mergeSort
    intro a ha b hb
    rw [countInOrder_eq] at ha hb
    obtain ⟨u, -, rfl⟩ := List.mem_map.mp ha
    obtain ⟨v, -, rfl⟩ := List.mem_map.mp hb
    rfl
  have hkeys : (countInOrder keys).map (·.1) = (keys.filter (· ≠ "")).eraseDups := by
    rw [countInOrder_eq, List.map_map]
    exact List.map_id _
  rw [rarestFirst, hsort, hkeys]

/-- Keys that are counted in the order of their counts already keep their places. -/
theorem rarestFirst_of_sorted {keys : List String}
    (h : (countInOrder keys).Pairwise fun a b => a.2 ≤ b.2) :
    rarestFirst keys = (countInOrder keys).map (·.1) := by
  rw [rarestFirst, List.mergeSort_of_pairwise (by simpa using h)]

theorem nodup_rarestFirst (keys : List String) : (rarestFirst keys).Nodup := by
  rw [rarestFirst_eq]
  exact (List.mergeSort_perm _ _).nodup_iff.mpr (nodup_eraseDups _)

theorem mem_rarestFirst_iff {keys : List String} {key : String} :
    key ∈ rarestFirst keys ↔ key ∈ keys ∧ key ≠ "" := by
  rw [rarestFirst_eq, (List.mergeSort_perm _ _).mem_iff, List.mem_eraseDups, List.mem_filter]
  simp

/-- In a queue, the rarer key comes first, and of two equally common ones the one that appears
first. -/
theorem rarestFirst_ordered (keys : List String) :
    let listed := keys.filter (· ≠ "")
    (rarestFirst keys).Pairwise fun u v => listed.count u < listed.count v ∨
      listed.count u = listed.count v ∧ listed.idxOf u < listed.idxOf v := by
  intro listed
  have hle : ∀ u v, decide (listed.count u ≤ listed.count v) = true ↔
      listed.count u ≤ listed.count v := fun _ _ => decide_eq_true_iff
  rw [rarestFirst_eq]
  -- keys enter the sort in order of first appearance, and ties keep that order
  have hsorted := sorted_mergeSort hle listed.eraseDups
  have hstable := stable_mergeSort hle (eraseDups_pairwise listed)
  apply (hsorted.and hstable).imp
  rintro u v ⟨hcount, hties⟩
  rcases Nat.lt_or_eq_of_le hcount with hlt | heq
  · exact Or.inl hlt
  · exact Or.inr ⟨heq, hties heq⟩

/-- In a queue, no key comes before a rarer one. -/
theorem rarestFirst_pairwise (keys : List String) :
    (rarestFirst keys).Pairwise fun u v => keys.count u ≤ keys.count v := by
  have hcount : ∀ k ∈ rarestFirst keys, (keys.filter (· ≠ "")).count k = keys.count k := by
    intro k hk
    exact List.count_filter (by simpa using (mem_rarestFirst_iff.mp hk).2)
  apply (rarestFirst_ordered keys).imp_of_mem
  intro u v hu hv h
  rw [hcount u hu, hcount v hv] at h
  omega

/-! ## The queue of categories -/

/-- Every category is in the queue only once. -/
theorem nodup_categoryQueue (lead : String) (articles : List Item) :
    (categoryQueue lead articles).Nodup := by
  apply List.nodup_cons.mpr
  constructor
  · intro hmem
    have hlead := (mem_rarestFirst_iff.mp hmem).1
    simp at hlead
  · exact nodup_rarestFirst _

/-- Behind the lead, no category comes before a rarer one. -/
theorem categoryQueue_pairwise (lead : String) (articles : List Item) :
    (categoryQueue lead articles).tail.Pairwise fun u v =>
      articles.countP (·.category == u) ≤ articles.countP (·.category == v) := by
  have hcount : ∀ k ∈ (categoryQueue lead articles).tail,
      ((articles.map (·.category)).filter (· ≠ lead)).count k =
        articles.countP (·.category == k) := by
    intro k hk
    have hne : k ≠ lead := by
      have hmem := (mem_rarestFirst_iff.mp hk).1
      simpa using (List.mem_filter.mp hmem).2
    rw [List.count_filter (by simpa using hne), List.count, List.countP_map]
    rfl
  apply (rarestFirst_pairwise _).imp_of_mem
  intro u v hu hv hle
  rw [hcount u hu, hcount v hv] at hle
  exact hle

/-! ## Queues of items -/

/-- A queue is the rotation of some items by a key: it has every key that occurs and is not
excluded, each once, the rarest first; of two keys that occur in equally many items, the one that
occurs first comes first. -/
structure IsRotation (key? : Item → Option String) (excluded : List String) (items : List Item)
    (queue : List String) : Prop where
  nodup : queue.Nodup
  mem_iff : ∀ k, k ∈ queue ↔ k ∉ excluded ∧ ∃ it ∈ items, key? it = some k
  ordered : queue.Pairwise fun u v =>
    items.countP (key? · == some u) < items.countP (key? · == some v) ∨
      items.countP (key? · == some u) = items.countP (key? · == some v) ∧
        items.findIdx (key? · == some u) < items.findIdx (key? · == some v)

/-- Of two keys, the one that appears first is that of the item that comes first. -/
theorem findIdx_lt_of_idxOf_filterMap_lt {f : Item → Option String} {items : List Item}
    {u v : String} (h : (items.filterMap f).idxOf u < (items.filterMap f).idxOf v) :
    items.findIdx (f · == some u) < items.findIdx (f · == some v) := by
  induction items with
  | nil => simp at h
  | cons it items ih =>
      rw [List.findIdx_cons, List.findIdx_cons]
      cases hit : f it with
      | none =>
          rw [List.filterMap_cons_none hit] at h
          simpa using ih h
      | some k =>
          rw [List.filterMap_cons_some hit, List.idxOf_cons, List.idxOf_cons] at h
          -- a key that stands behind another one is not the first of all
          by_cases hv : k = v
          · simp [hv] at h
          · by_cases hu : k = u
            · subst hu
              simp [beq_eq_false_iff_ne.mpr hv]
            · simp only [Option.some_beq_some, beq_eq_false_iff_ne.mpr hu,
                beq_eq_false_iff_ne.mpr hv, cond_false] at h ⊢
              exact Nat.succ_lt_succ (ih (Nat.lt_of_succ_lt_succ h))

/-- A queue that is made of the keys of some items, as far as they are not excluded, is their
rotation. -/
theorem isRotation_rarestFirst {key? : Item → Option String} {excluded : List String}
    {items : List Item} {keys : List String}
    (h : keys.filter (· ≠ "") = (items.filterMap key?).filter (· ∉ excluded)) :
    IsRotation key? excluded items (rarestFirst keys) := by
  have hmem : ∀ k, k ∈ rarestFirst keys ↔ k ∉ excluded ∧ ∃ it ∈ items, key? it = some k := by
    intro k
    have hlisted : k ∈ rarestFirst keys ↔ k ∈ keys.filter (· ≠ "") := by
      rw [mem_rarestFirst_iff, List.mem_filter]
      simp
    rw [hlisted, h, List.mem_filter, List.mem_filterMap]
    simp [and_comm]
  refine ⟨nodup_rarestFirst keys, hmem, ?_⟩
  -- excluded keys are not in the queue, so leaving them out changes neither counts nor order
  have hcount : ∀ k ∈ rarestFirst keys,
      (keys.filter (· ≠ "")).count k = items.countP (key? · == some k) := by
    intro k hk
    rw [h, List.count_filter (by simpa using ((hmem k).mp hk).1), List.count_filterMap]
  have hkey : ∀ k ∈ rarestFirst keys, (fun it => (key? it).filter (· ∉ excluded) == some k) =
      fun it => key? it == some k := by
    intro k hk
    funext it
    have hlisted := ((hmem k).mp hk).1
    rw [Bool.eq_iff_iff, beq_iff_eq, beq_iff_eq, Option.filter_eq_some_iff]
    simp [hlisted]
  apply (rarestFirst_ordered keys).imp_of_mem
  intro u v hu hv huv
  rw [hcount u hu, hcount v hv, h, List.filter_filterMap] at huv
  rcases huv with hlt | ⟨heq, hfirst⟩
  · exact Or.inl hlt
  · have hidx := findIdx_lt_of_idxOf_filterMap_lt hfirst
    rw [hkey u hu, hkey v hv] at hidx
    exact Or.inr ⟨heq, hidx⟩

/-- Whatever lies among the deals, the queue of deal categories is the rotation of their keys. -/
theorem isRotation_dealQueue (deals : List Item) :
    IsRotation Item.offersCategory? [""] deals (dealQueue deals) := by
  apply isRotation_rarestFirst
  apply List.filter_congr
  intro k _
  simp

/-- Only deals put keys into the queue; items of other kinds have none. -/
theorem mem_dealQueue_iff {deals : List Item} {key : String} :
    key ∈ dealQueue deals ↔ key ≠ "" ∧ ∃ it ∈ deals, it.kind = .deal key := by
  rw [(isRotation_dealQueue deals).mem_iff, List.mem_singleton]
  simp only [Item.offersCategory?_eq_some_iff, ne_eq]

/-- The queue of categories is the lead category and then the rotation of all others, and the queue
of deal categories is the rotation of the keys that the deals among its items have. Counting keys
never fails, since the index points at the entry of its own key, whatever the keys. -/
theorem queues_rarest_first :
    (∀ (lead : String) (articles : List Item), ∃ queue,
      categoryQueue lead articles = lead :: queue ∧
        IsRotation (fun it => some it.category) ["", lead] articles queue) ∧
    (∀ deals : List Item, IsRotation Item.offersCategory? [""] deals (dealQueue deals)) ∧
    ∀ keys : List String, ∃ t, Tally.ofKeys? keys = some t ∧
      ∀ (key : String) (i : Nat), t.index.lookup key = some i ↔
        ∃ n, t.entries[i]? = some (key, n) := by
  refine ⟨?_, isRotation_dealQueue, ?_⟩
  · intro lead articles
    refine ⟨_, rfl, isRotation_rarestFirst ?_⟩
    rw [List.filter_filter, ← Function.comp_def some, List.filterMap_eq_map]
    apply List.filter_congr
    intro k _
    simp
  · intro keys
    obtain ⟨t, ht, hindexed⟩ := Tally.exists_ofKeys? keys
    refine ⟨t, ht, ?_⟩
    intro key i
    rw [hindexed key i, Tally.keys, List.getElem?_map, Option.map_eq_some_iff]
    constructor
    · rintro ⟨⟨k, n⟩, hentry, rfl⟩
      exact ⟨n, hentry⟩
    · rintro ⟨n, hentry⟩
      exact ⟨_, hentry, rfl⟩

end Newsfeed
