import Mathlib.Data.List.Basic
import Newsfeed.Pool

/-! # The items that a test is asked about

A draw may use a test with a state of its own, so it matters which items the test is asked about, in
which order and how often. A draw asks about the items from the front on, once each, as long as there
is room for one more, and its verdict on an item is the answer to that one question.

* `answers`, `stateAfter`: what a test says of one item after the other, and its state then;
* `StopsAfter`: where the asking ends, with `stopsAfter_askedCount`;
* `marked`: the items that share a mark; those marked and those not marked make up a list;
* `drawWith_eq`: a draw by what is asked, and `drawWith_recording`: by what the test writes down;
* `asked_until_full`: which items a draw from a pool asks about, takes and leaves.
-/

namespace Newsfeed.Pool

variable {α σ : Type}

/-! ## Questions and answers -/

/-- The answers of a test that is asked about every item of a list in order. -/
def answers (test : σ → α → Bool × σ) : σ → List α → List Bool
  | _, [] => []
  | s, x :: xs => (test s x).1 :: answers test (test s x).2 xs

/-- The state of a test after it has been asked about every item of a list in order. -/
def stateAfter (test : σ → α → Bool × σ) (s : σ) (xs : List α) : σ :=
  xs.foldl (fun s x => (test s x).2) s

/-- The test that also writes down every item that it is asked about. -/
def recording (test : σ → α → Bool × σ) (s : σ × List α) (x : α) : Bool × σ × List α :=
  ((test s.1 x).1, (test s.1 x).2, s.2 ++ [x])

@[simp] theorem length_answers (test : σ → α → Bool × σ) (s : σ) (xs : List α) :
    (answers test s xs).length = xs.length := by
  induction xs generalizing s with
  | nil => rfl
  | cons x xs ih => rw [answers, List.length_cons, ih, List.length_cons]

/-- An answer does not depend on the items after it. -/
theorem answers_take (test : σ → α → Bool × σ) (n : Nat) (s : σ) (xs : List α) :
    answers test s (xs.take n) = (answers test s xs).take n := by
  induction xs generalizing n s with
  | nil => simp [answers]
  | cons x xs ih =>
    cases n with
    | zero => rfl
    | succ n => rw [List.take_succ_cons, answers, ih, answers, List.take_succ_cons]

/-! ## Where the asking ends -/

/-- The asking stops after `n` items. Until then fewer than `limit` items have been accepted, and if
there are items that are not asked about, then that many have. -/
structure StopsAfter (limit : Nat) (given : List Bool) (n : Nat) : Prop where
  le_length : n ≤ given.length
  has_room : ∀ m < n, (given.take m).count true < limit
  is_full : n < given.length → (given.take n).count true = limit

namespace StopsAfter

variable {limit n : Nat} {given : List Bool}

/-- Without room for any item no question is asked. -/
theorem eq_zero (h : StopsAfter 0 given n) : n = 0 := by
  by_contra hn
  have hroom := h.has_room 0 (by omega)
  omega

/-- If the limit is never reached, the test is asked about every item. -/
theorem eq_length (h : StopsAfter limit given n) (hroom : given.count true < limit) :
    n = given.length := by
  by_contra hn
  have hfull := h.is_full (by have := h.le_length; omega)
  have hle := (List.take_sublist n given).count_le true
  omega

/-- There is only one place to stop at. -/
theorem le (h : StopsAfter limit given n) {m : Nat} (h' : StopsAfter limit given m) : n ≤ m := by
  by_contra hlt
  have hroom := h.has_room m (by omega)
  have hfull := h'.is_full (by have := h.le_length; omega)
  omega

/-- One question more is asked before those that it leaves room for. -/
theorem cons (a : Bool) (hroom : 0 < limit) (h : StopsAfter (limit - a.toNat) given n) :
    StopsAfter limit (a :: given) (n + 1) := by
  have ha := a.toNat_le
  -- an accepted item is one of those that there was room for
  have hcount : ∀ m, ((a :: given).take (m + 1)).count true = (given.take m).count true + a.toNat := by
    intro m
    cases a <;> simp
  refine ⟨Nat.succ_le_succ h.le_length, ?_, ?_⟩
  · intro m hm
    cases m with
    | zero => simpa using hroom
    | succ m =>
      have hbefore := h.has_room m (by omega)
      rw [hcount]
      omega
  · intro hlt
    have hfull := h.is_full (Nat.lt_of_succ_lt_succ hlt)
    rw [hcount]
    omega

end StopsAfter

/-- How many questions it takes until the limit is reached. -/
def askedCount : Nat → List Bool → Nat
  | 0, _ => 0
  | _ + 1, [] => 0
  | limit + 1, true :: given => askedCount limit given + 1
  | limit + 1, false :: given => askedCount (limit + 1) given + 1

theorem stopsAfter_askedCount (limit : Nat) (given : List Bool) :
    StopsAfter limit given (askedCount limit given) := by
  fun_induction askedCount limit given with
  | case1 given => exact ⟨Nat.zero_le _, by simp, by simp⟩
  | case2 limit => exact ⟨Nat.le_refl _, by simp, by simp⟩
  | case3 limit given ih => exact .cons true limit.succ_pos ih
  | case4 limit given ih => exact .cons false limit.succ_pos ih

/-! ## Marked items -/

/-- The items of a list that carry the mark. -/
def marked (mark : Bool) (marks : List Bool) (xs : List α) : List α :=
  ((marks.zip xs).filter (·.1 == mark)).map Prod.snd

@[simp] theorem marked_cons_self (mark : Bool) (marks : List Bool) (x : α) (xs : List α) :
    marked mark (mark :: marks) (x :: xs) = x :: marked mark marks xs := by
  simp [marked]

@[simp] theorem marked_cons_of_ne {mark a : Bool} (h : a ≠ mark) (marks : List Bool) (x : α)
    (xs : List α) : marked mark (a :: marks) (x :: xs) = marked mark marks xs := by
  simp [marked, h]

/-- Marks change nothing but which items there are. -/
theorem marked_sublist (mark : Bool) {marks : List Bool} {xs : List α}
    (h : marks.length = xs.length) : (marked mark marks xs).Sublist xs := by
  have hsub := (List.filter_sublist (p := fun p : Bool × α => p.1 == mark)
    (l := marks.zip xs)).map Prod.snd
  rwa [List.map_snd_zip (by omega)] at hsub

/-- Every item is on one of the two sides. -/
theorem marked_perm {marks : List Bool} {xs : List α} (h : marks.length = xs.length) :
    (marked true marks xs ++ marked false marks xs).Perm xs := by
  have hnot : (fun p : Bool × α => !(p.1 == true)) = fun p => p.1 == false := by
    funext p
    cases p.1 <;> rfl
  have hperm := (List.filter_append_perm (fun p : Bool × α => p.1 == true) (marks.zip xs)).map
    Prod.snd
  rwa [hnot, List.map_append, List.map_snd_zip (by omega)] at hperm

theorem marked_true_replicate (xs : List α) :
    marked true (List.replicate xs.length false) xs = [] := by
  induction xs with
  | nil => rfl
  | cons x xs ih => simpa [List.replicate_succ] using ih

theorem marked_false_replicate (xs : List α) :
    marked false (List.replicate xs.length false) xs = xs := by
  induction xs with
  | nil => rfl
  | cons x xs ih => simpa [List.replicate_succ] using ih

/-! ## Draws -/

/-- The verdicts of a test that is asked about the first `n` items: its answers, and no for all that
it is not asked about. -/
def verdicts (n : Nat) (given : List Bool) : List Bool :=
  given.take n ++ List.replicate (given.length - n) false

theorem length_verdicts {n : Nat} {given : List Bool} (h : n ≤ given.length) :
    (verdicts n given).length = given.length := by
  rw [verdicts, List.length_append, List.length_take, List.length_replicate]
  omega

theorem verdicts_zero (given : List Bool) :
    verdicts 0 given = List.replicate given.length false := rfl

theorem verdicts_succ (n : Nat) (a : Bool) (given : List Bool) :
    verdicts (n + 1) (a :: given) = a :: verdicts n given := by
  rw [verdicts, List.take_succ_cons, List.length_cons, Nat.add_sub_add_right, List.cons_append,
    verdicts]

/-- A draw takes the items whose verdict is yes and leaves the others. -/
theorem drawWith_eq (test : σ → α → Bool × σ) (limit : Nat) (s : σ) (xs : List α) :
    drawWith test limit s xs =
      let n := askedCount limit (answers test s xs)
      let judged := verdicts n (answers test s xs)
      ⟨marked true judged xs, marked false judged xs, stateAfter test s (xs.take n)⟩ := by
  -- along the recursion of the draw, which counts the questions in the same way
  fun_induction drawWith test limit s xs with
  | case1 s xs =>
    simp only [askedCount, verdicts_zero, length_answers, marked_true_replicate,
      marked_false_replicate]
    rfl
  | case2 limit s => rfl
  | case3 limit s x xs s' h d ih => simp [answers, h, askedCount, verdicts_succ, d, ih, stateAfter]
  | case4 limit s x xs s' h d ih => simp [answers, h, askedCount, verdicts_succ, d, ih, stateAfter]

/-- Writing down what is asked changes nothing else, and writes down the items that are asked about. -/
theorem drawWith_recording (test : σ → α → Bool × σ) (limit : Nat) (s : σ) (before xs : List α) :
    drawWith (recording test) limit (s, before) xs =
      let d := drawWith test limit s xs
      ⟨d.taken, d.left, d.state, before ++ xs.take (askedCount limit (answers test s xs))⟩ := by
  fun_induction drawWith test limit s xs generalizing before with
  | case1 s xs => simp [drawWith, askedCount]
  | case2 limit s => simp [drawWith]
  | case3 limit s x xs s' h d ih => simp [drawWith, recording, h, answers, askedCount, ih, d]
  | case4 limit s x xs s' h d ih => simp [drawWith, recording, h, answers, askedCount, ih, d]

/-- A draw by a test with a state asks about the items of the pool in order, once each, as long as
fewer than `limit` have been accepted. No item is asked about if there is no room, and every item if
the limit is never reached. The items accepted are taken and all others left, both in the order of the
pool, and together they are as many as there were. -/
theorem asked_until_full (p : Pool α) (test : σ → α → Bool × σ) (limit : Nat) (s : σ) :
    ∃ n, StopsAfter limit (answers test s p.items) n ∧
      (limit = 0 → n = 0) ∧
      ((answers test s p.items).count true < limit → n = p.size) ∧
      let asked := p.items.take n
      let judged := answers test s asked ++ List.replicate (p.size - n) false
      let taken := marked true judged p.items
      let left := marked false judged p.items
      p.takeWith test limit s = (taken, ⟨left⟩, stateAfter test s asked) ∧
      p.takeWith (recording test) limit (s, []) =
        (taken, ⟨left⟩, stateAfter test s asked, asked) ∧
      taken.Sublist p.items ∧ left.Sublist p.items ∧ taken.length + left.length = p.size := by
  let given := answers test s p.items
  let n := askedCount limit given
  -- the test answers the items that it is asked about as if it were asked about all
  have hgiven : given.length = p.size := length_answers test s p.items
  have hstop : StopsAfter limit given n := stopsAfter_askedCount limit given
  have hjudged : answers test s (p.items.take n) ++ List.replicate (p.size - n) false =
      verdicts n given := by
    rw [answers_take, verdicts, hgiven]
  have hlength : (verdicts n given).length = p.items.length :=
    (length_verdicts hstop.le_length).trans hgiven
  refine ⟨n, hstop, ?_, ?_, ?_⟩
  · rintro rfl
    exact hstop.eq_zero
  · intro hroom
    exact (hstop.eq_length hroom).trans hgiven
  · simp only [hjudged]
    refine ⟨?_, ?_, marked_sublist true hlength, marked_sublist false hlength, ?_⟩
    · rw [takeWith, drawWith_eq]
    · rw [takeWith, drawWith_recording, drawWith_eq, List.nil_append]
    · rw [← List.length_append]
      exact (marked_perm hlength).length_eq

/-- A test that accepts every other item it is asked about, and counts its questions. -/
def everyOther (questions : Nat) (_ : Nat) : Bool × Nat := (questions % 2 == 1, questions + 1)

theorem asked_until_full_sample :
    let p : Pool Nat := ⟨[10, 20, 30, 40, 50, 60]⟩
    ∃ n, StopsAfter 2 (answers everyOther 0 p.items) n ∧ n = 4 ∧
      p.takeWith (recording everyOther) 2 (0, []) =
        ([20, 40], ⟨[10, 30, 50, 60]⟩, 4, [10, 20, 30, 40]) := by
  intro p
  obtain ⟨n, hstop, -, -, -, hdraw, -⟩ := asked_until_full p everyOther 2 0
  have hfour : StopsAfter 2 (answers everyOther 0 p.items) 4 :=
    ⟨by decide, by decide, by decide⟩
  have hn : n = 4 := Nat.le_antisymm (hstop.le hfour) (hfour.le hstop)
  refine ⟨n, hstop, hn, ?_⟩
  rw [hdraw, hn]
  decide

end Newsfeed.Pool
