import Mathlib.Data.List.Basic
import Newsfeed.Pool

/-! # What a draw takes and leaves

A draw scans a pool once and stops asking when its limit is reached. Seen from outside, it takes
the first matching items and leaves the rest of them:

* `draw_taken`, `filter_draw_left`: what is taken and what matches among the rest are a prefix of
  the matching items and what follows it;
* `not_test_of_short`: a draw that stays below its limit leaves nothing that matches;
* `draw_before_left`: in an ordered pool, what is taken stands before all that still matches;
* `draw_left_of_nodup`: where no item occurs twice, what is left is everything but what is taken;
* `draw_map`: a draw does not see more of an item than its test does, so it commutes with renaming.
-/

namespace Newsfeed.Pool

variable {α β : Type}

/-- A draw of at most one item takes the first one that matches. -/
theorem draw_one (test : α → Bool) (xs : List α) :
    (draw test 1 xs).1 = (xs.find? test).toList := by
  rw [draw_taken, List.take_one, List.head?_filter]

/-- The matching items that are left are those after the ones taken. -/
theorem filter_draw_left (test : α → Bool) (n : Nat) (xs : List α) :
    (draw test n xs).2.filter test = (xs.filter test).drop n := by
  fun_induction draw test n xs with
  | case1 => simp
  | case2 => simp
  | case3 n x xs h d ih => simpa [List.filter_cons_of_pos h] using ih
  | case4 n x xs h d ih => simpa [List.filter_cons_of_neg h] using ih

/-- Taken items and matching items left are, in this order, the matching items there were. -/
theorem draw_taken_append_filter_left (test : α → Bool) (n : Nat) (xs : List α) :
    (draw test n xs).1 ++ (draw test n xs).2.filter test = xs.filter test := by
  rw [draw_taken, filter_draw_left, List.take_append_drop]

/-- An item was there if and only if it was taken or left. -/
theorem mem_draw_iff (test : α → Bool) (n : Nat) (xs : List α) {a : α} :
    a ∈ (draw test n xs).1 ∨ a ∈ (draw test n xs).2 ↔ a ∈ xs := by
  rw [← List.mem_append]
  exact (draw_perm test n xs).mem_iff

/-- A draw that stays below its limit leaves nothing that matches. -/
theorem not_test_of_short {test : α → Bool} {n : Nat} {xs : List α}
    (hshort : (draw test n xs).1.length < n) {a : α} (ha : a ∈ (draw test n xs).2) :
    test a = false := by
  have hle : (xs.filter test).length ≤ n := by
    rw [draw_taken, List.length_take] at hshort
    omega
  have hnone : (draw test n xs).2.filter test = [] := by
    rw [filter_draw_left]
    exact List.drop_eq_nil_of_le hle
  have hnot := List.filter_eq_nil_iff.mp hnone a ha
  simpa using hnot

/-- A draw with room that takes nothing has met nothing that matches. -/
theorem not_test_of_taken_nil {test : α → Bool} {n : Nat} {xs : List α} (hn : 0 < n)
    (hnil : (draw test n xs).1 = []) {a : α} (ha : a ∈ xs) : test a = false := by
  rcases (mem_draw_iff test n xs).mpr ha with htaken | hleft
  · simp [hnil] at htaken
  · exact not_test_of_short (by simpa [hnil] using hn) hleft

/-- In an ordered pool, what is taken stands before everything left that matches. -/
theorem draw_before_left {r : α → α → Prop} {test : α → Bool} {n : Nat} {xs : List α}
    (hxs : xs.Pairwise r) {a b : α} (ha : a ∈ (draw test n xs).1) (hb : b ∈ (draw test n xs).2)
    (htest : test b = true) : r a b := by
  have hpair : ((draw test n xs).1 ++ (draw test n xs).2.filter test).Pairwise r := by
    rw [draw_taken_append_filter_left]
    exact hxs.sublist List.filter_sublist
  exact (List.pairwise_append.mp hpair).2.2 a ha b (List.mem_filter.mpr ⟨hb, htest⟩)

/-- Where no item occurs twice, what is left is everything but what is taken. -/
theorem draw_left_of_nodup [DecidableEq α] {test : α → Bool} {n : Nat} {xs : List α}
    (hxs : xs.Nodup) : (draw test n xs).2 = xs.filter (· ∉ (draw test n xs).1) := by
  fun_induction draw test n xs with
  | case1 => simp
  | case2 => simp
  | case3 n x xs h d ih =>
    obtain ⟨hx, hrest⟩ := List.nodup_cons.mp hxs
    have hlater : ∀ a ∈ xs, (a ∉ x :: d.1) = (a ∉ d.1) := by
      intro a ha
      have hne : a ≠ x := fun heq => hx (heq ▸ ha)
      simp [hne]
    rw [List.filter_cons_of_neg (by simp), ih hrest]
    exact List.filter_congr fun a ha => by simp only [hlater a ha, d]
  | case4 n x xs h d ih =>
    obtain ⟨hx, hrest⟩ := List.nodup_cons.mp hxs
    have hkept : x ∉ d.1 := fun hmem => hx ((draw_taken_sublist test (n + 1) xs).subset hmem)
    rw [List.filter_cons_of_pos (by simpa using hkept), ih hrest]

/-- A test that fails on the whole pool takes nothing. -/
theorem draw_of_forall_not {test : α → Bool} (n : Nat) {xs : List α}
    (h : ∀ a ∈ xs, test a = false) : draw test n xs = ([], xs) := by
  have hnil : (draw test n xs).1 = [] := by
    rw [draw_taken, List.filter_eq_nil_iff.mpr (fun a ha => by simp [h a ha]), List.take_nil]
  -- what is left keeps its order, and nothing is missing there
  have hperm := draw_perm test n xs
  rw [hnil, List.nil_append] at hperm
  exact Prod.ext hnil ((draw_left_sublist test n xs).eq_of_length hperm.length_eq)

/-- Drawing from renamed items is renaming what is drawn. -/
theorem draw_map (f : β → α) (test : α → Bool) (n : Nat) (xs : List β) :
    draw test n (xs.map f) =
      ((draw (test ∘ f) n xs).1.map f, (draw (test ∘ f) n xs).2.map f) := by
  fun_induction draw (test ∘ f) n xs with
  | case1 => grind
  | case2 => grind
  | case3 n x xs h d ih =>
    have hx : test (f x) = true := h
    simp [draw, hx, ih, d]
  | case4 n x xs h d ih =>
    have hx : ¬ test (f x) = true := h
    simp [draw, hx, ih, d]

end Newsfeed.Pool
