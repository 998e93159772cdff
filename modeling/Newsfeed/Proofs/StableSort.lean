import Mathlib.Data.List.Basic
import Mathlib.Order.Lattice
import Mathlib.Data.Int.Order.Basic
import Newsfeed.Ranking

/-! # Stable sorting

A stable sort puts entries in the order of a key and keeps, among the entries of each key, the order
that they had. These two facts leave it no choice, so it can be exchanged with anything that keeps
both, such as picking the entries that pass a test.

* `filter_key_mergeSort`: the entries of one key are those that were there, in their order;
* `stable_mergeSort`: so two entries of one key are still in the order that they were in;
* `eq_of_sorted_of_filter_key_eq`: a sorted list is determined by its entries of each key;
* `filter_mergeSort`: sorting and then picking is picking and then sorting;
* `rank_filter`: an item keeps its place among the items of its kind, whatever else is ranked.
-/

namespace Newsfeed

section Keys

variable {α β : Type} [LinearOrder β] {key : α → β} {le : α → α → Bool}

theorem le_trans_of_key (hle : ∀ a b, le a b = true ↔ key a ≤ key b) (a b d : α)
    (hab : le a b = true) (hbd : le b d = true) : le a d = true := by
  rw [hle] at hab hbd ⊢
  exact le_trans hab hbd

theorem le_total_of_key (hle : ∀ a b, le a b = true ↔ key a ≤ key b) (a b : α) :
    (le a b || le b a) = true := by
  rw [Bool.or_eq_true, hle, hle]
  exact le_total (key a) (key b)

theorem sorted_mergeSort (hle : ∀ a b, le a b = true ↔ key a ≤ key b) (xs : List α) :
    (xs.mergeSort le).Pairwise fun a b => key a ≤ key b := by
  have hsorted := List.pairwise_mergeSort (le_trans_of_key hle) (le_total_of_key hle) xs
  exact hsorted.imp fun {a b} h => (hle a b).mp h

/-- Among the entries of one key, sorting changes nothing. -/
theorem filter_key_mergeSort (hle : ∀ a b, le a b = true ↔ key a ≤ key b) (k : β) (xs : List α) :
    (xs.mergeSort le).filter (key · = k) = xs.filter (key · = k) := by
  have hclass : (xs.filter (key · = k)).Pairwise fun a b => le a b = true := by
    apply List.pairwise_of_forall_mem_list
    intro a ha b hb
    have hka : key a = k := by simpa using (List.mem_filter.mp ha).2
    have hkb : key b = k := by simpa using (List.mem_filter.mp hb).2
    rw [hle, hka, hkb]
  -- the class is in order as it is, so the sorted list has it as it is
  have hsub := List.sublist_mergeSort (le_trans_of_key hle) (le_total_of_key hle) hclass
    List.filter_sublist
  have hkept := hsub.filter (key · = k)
  rw [List.filter_filter] at hkept
  simp only [Bool.and_self] at hkept
  exact (hkept.eq_of_length ((List.mergeSort_perm xs le).filter _).length_eq.symm).symm

/-- Entries of one key keep the order that they had. -/
theorem stable_mergeSort (hle : ∀ a b, le a b = true ↔ key a ≤ key b) {r : α → α → Prop}
    {xs : List α} (hxs : xs.Pairwise r) :
    (xs.mergeSort le).Pairwise fun a b => key a = key b → r a b := by
  rw [List.pairwise_iff_forall_sublist]
  intro a b hab hkey
  have hclass : [a, b].Sublist (xs.filter (key · = key b)) := by
    have hfilter := hab.filter (key · = key b)
    rw [filter_key_mergeSort hle, List.filter_eq_self.mpr (by simp [hkey])] at hfilter
    exact hfilter
  exact List.pairwise_iff_forall_sublist.mp hxs (hclass.trans List.filter_sublist)

theorem mem_iff_of_filter_key_eq {xs ys : List α}
    (h : ∀ k, xs.filter (key · = k) = ys.filter (key · = k)) (a : α) : a ∈ xs ↔ a ∈ ys := by
  have ha : a ∈ xs.filter (key · = key a) ↔ a ∈ ys.filter (key · = key a) := by rw [h]
  simpa using ha

/-- The first entry of a sorted list has the least key. -/
theorem key_head_le {x a : α} {xs : List α}
    (h : (x :: xs).Pairwise fun a b => key a ≤ key b) (ha : a ∈ x :: xs) : key x ≤ key a := by
  rcases List.mem_cons.mp ha with rfl | hlater
  · exact le_refl _
  · exact (List.pairwise_cons.mp h).1 a hlater

theorem filter_key_tail_eq {x : α} {xs ys : List α}
    (h : ∀ k, (x :: xs).filter (key · = k) = (x :: ys).filter (key · = k)) (k : β) :
    xs.filter (key · = k) = ys.filter (key · = k) := by
  have hk := h k
  by_cases hx : key x = k
  · rw [List.filter_cons_of_pos (by simpa using hx),
      List.filter_cons_of_pos (by simpa using hx)] at hk
    exact (List.cons.inj hk).2
  · rw [List.filter_cons_of_neg (by simpa using hx),
      List.filter_cons_of_neg (by simpa using hx)] at hk
    exact hk

/-- A sorted list is determined by its entries of each key. -/
theorem eq_of_sorted_of_filter_key_eq {xs ys : List α}
    (hxs : xs.Pairwise fun a b => key a ≤ key b) (hys : ys.Pairwise fun a b => key a ≤ key b)
    (h : ∀ k, xs.filter (key · = k) = ys.filter (key · = k)) : xs = ys := by
  induction xs generalizing ys with
  | nil =>
      apply Eq.symm
      apply List.eq_nil_iff_forall_not_mem.mpr
      intro b hb
      simpa using (mem_iff_of_filter_key_eq h b).mpr hb
  | cons x xs ih =>
      cases ys with
      | nil => simpa using (mem_iff_of_filter_key_eq h x).mp List.mem_cons_self
      | cons y ys =>
          -- the two first entries have the least key, so they head the same class
          have hxy := key_head_le hxs ((mem_iff_of_filter_key_eq h y).mpr List.mem_cons_self)
          have hyx := key_head_le hys ((mem_iff_of_filter_key_eq h x).mp List.mem_cons_self)
          have hkey : key y = key x := le_antisymm hyx hxy
          have hclass := h (key x)
          rw [List.filter_cons_of_pos (by simp), List.filter_cons_of_pos (by simp [hkey])] at hclass
          have hhead : x = y := (List.cons.inj hclass).1
          subst hhead
          rw [ih hxs.of_cons hys.of_cons (filter_key_tail_eq h)]

/-- Picking from a sorted list is sorting what is picked. -/
theorem filter_mergeSort (hle : ∀ a b, le a b = true ↔ key a ≤ key b) (test : α → Bool)
    (xs : List α) : (xs.mergeSort le).filter test = (xs.filter test).mergeSort le := by
  have hpicked := (sorted_mergeSort hle xs).sublist (List.filter_sublist (p := test))
  apply eq_of_sorted_of_filter_key_eq hpicked (sorted_mergeSort hle (xs.filter test))
  intro k
  rw [List.filter_comm, filter_key_mergeSort hle, filter_key_mergeSort hle, List.filter_comm]

end Keys

theorem ranksBefore_iff (c : Config) (a b : Item) :
    a.ranksBefore c b = true ↔ (a.sortKey c).place ≤ (b.sortKey c).place := by
  simp [Item.ranksBefore]

/-- The ranking of the items of a kind is what the whole ranking has of that kind. -/
theorem rank_filter {kind : Item → Bool} (c : Config) (hosts : List String)
    (hkind : ∀ it : Item, kind (it.weigh c hosts) = kind it) (items : List Item) :
    (rank c hosts items).filter kind = rank c hosts (items.filter kind) := by
  have hweigh : kind ∘ Item.weigh c hosts = kind := funext hkind
  rw [rank, filter_mergeSort (ranksBefore_iff c), List.filter_map, hweigh]
  rfl

/-- Items that stand in rank order already keep their places. -/
theorem rank_of_sorted (c : Config) (hosts : List String) {items : List Item}
    (h : (items.map (Item.weigh c hosts)).Pairwise fun a b => a.ranksBefore c b = true) :
    rank c hosts items = items.map (Item.weigh c hosts) :=
  List.mergeSort_of_pairwise h

end Newsfeed
