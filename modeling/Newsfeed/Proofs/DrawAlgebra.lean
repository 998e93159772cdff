import Newsfeed.Proofs.Draws

/-! # The algebra of draws

Draws by tests without state obey a few laws, whatever is in the pool and whatever the limits are:

* `draw_add`: two draws by one test, one after the other, are one draw with both limits;
* `draw_always`: a draw by a test that is always passed is a draw from the front;
* `draw_taken_of_disjoint`, `draw_left_comm`: draws by two tests that no item passes both of take the
  same and leave the same in either order;
* `draws_compose`: the laws for pools, and that a test without state is a stateful one whose state
  does not matter.
-/

namespace Newsfeed.Pool

variable {α : Type}

/-- Two draws by one test are one draw with both limits. -/
theorem draw_add (test : α → Bool) (m n : Nat) (xs : List α) :
    draw test (m + n) xs = ((draw test m xs).1 ++ (draw test n (draw test m xs).2).1,
      (draw test n (draw test m xs).2).2) := by
  fun_induction draw test m xs with
  | case1 xs => rw [Nat.zero_add, List.nil_append]
  | case2 m => simp only [draw_nil, List.append_nil]
  | case3 m x xs h d ih =>
    rw [Nat.succ_add, draw_cons_of_pos h, ih]
    rfl
  | case4 m x xs h d ih =>
    rw [draw_cons_of_neg h, ih, draw_cons_of_neg h]

/-- What is always passed is taken from the front. -/
theorem draw_always (n : Nat) (xs : List α) :
    draw (fun _ => true) n xs = (xs.take n, xs.drop n) := by
  induction xs generalizing n with
  | nil => rw [draw_nil, List.take_nil, List.drop_nil]
  | cons x xs ih =>
    cases n with
    | zero => rw [draw_zero, List.take_zero, List.drop_zero]
    | succ n => rw [draw_cons_of_pos rfl, ih, List.take_succ_cons, List.drop_succ_cons]

/-- A draw by one test leaves all that only another test would take. -/
theorem filter_draw_of_disjoint {p q : α → Bool} (m : Nat) {xs : List α}
    (hdisjoint : ∀ x ∈ xs, ¬ (p x = true ∧ q x = true)) :
    (draw p m xs).2.filter q = xs.filter q := by
  fun_induction draw p m xs with
  | case1 xs => rfl
  | case2 m => rfl
  | case3 m x xs h d ih =>
    obtain ⟨hx, hrest⟩ := List.forall_mem_cons.mp hdisjoint
    rw [List.filter_cons_of_neg fun hq => hx ⟨h, hq⟩]
    exact ih hrest
  | case4 m x xs h d ih =>
    obtain ⟨-, hrest⟩ := List.forall_mem_cons.mp hdisjoint
    rw [List.filter_cons, List.filter_cons, ih hrest]

/-- So a draw by the other test takes the same before and after it. -/
theorem draw_taken_of_disjoint {p q : α → Bool} (m n : Nat) {xs : List α}
    (hdisjoint : ∀ x ∈ xs, ¬ (p x = true ∧ q x = true)) :
    (draw q n (draw p m xs).2).1 = (draw q n xs).1 := by
  rw [draw_taken, filter_draw_of_disjoint m hdisjoint, draw_taken]

/-- An item that only one test can take does not matter to the other draw, before or after. -/
theorem draw_left_comm_cons {p q : α → Bool} (m n : Nat) {x : α} {xs : List α}
    (hp : p x = true) (hq : ¬ q x = true)
    (ih : ∀ m, (draw q n (draw p m xs).2).2 = (draw p m (draw q n xs).2).2) :
    (draw q n (draw p m (x :: xs)).2).2 = (draw p m (draw q n (x :: xs)).2).2 := by
  rw [draw_cons_of_neg hq]
  cases m with
  | zero => rw [draw_zero, draw_zero, draw_cons_of_neg hq]
  | succ m => rw [draw_cons_of_pos hp, draw_cons_of_pos hp, ih]

/-- And what is left in the end does not depend on the order of the two draws. -/
theorem draw_left_comm {p q : α → Bool} (m n : Nat) {xs : List α}
    (hdisjoint : ∀ x ∈ xs, ¬ (p x = true ∧ q x = true)) :
    (draw q n (draw p m xs).2).2 = (draw p m (draw q n xs).2).2 := by
  induction xs generalizing m n with
  | nil => simp only [draw_nil]
  | cons x xs ih =>
    obtain ⟨hx, hrest⟩ := List.forall_mem_cons.mp hdisjoint
    by_cases hp : p x = true
    · exact draw_left_comm_cons m n hp (fun hq => hx ⟨hp, hq⟩) fun m => ih m n hrest
    · by_cases hq : q x = true
      · exact (draw_left_comm_cons n m hq hp fun n => (ih m n hrest).symm).symm
      · rw [draw_cons_of_neg hp, draw_cons_of_neg hq, draw_cons_of_neg hq, draw_cons_of_neg hp,
          ih m n hrest]

/-- A test without state draws what it draws with any state beside it. Drawing twice by one test is
drawing once with both limits, and drawing from the front is drawing by a test that is always passed.
If no item of the pool passes two tests, then the draws by them take the same items and leave the same
pool in either order. -/
theorem draws_compose (pool : Pool α) (p q : α → Bool) (m n : Nat) :
    (∀ {σ : Type} (s : σ), pool.takeWith (fun s x => (p x, s)) m s =
      ((pool.take p m).1, (pool.take p m).2, s)) ∧
    ((pool.take p m).1 ++ ((pool.take p m).2.take p n).1, ((pool.take p m).2.take p n).2) =
      pool.take p (m + n) ∧
    pool.takeFront n = pool.take (fun _ => true) n ∧
    ((∀ x ∈ pool.items, ¬ (p x = true ∧ q x = true)) →
      ((pool.take p m).2.take q n).1 = (pool.take q n).1 ∧
      ((pool.take q n).2.take p m).1 = (pool.take p m).1 ∧
      ((pool.take p m).2.take q n).2 = ((pool.take q n).2.take p m).2) := by
  refine ⟨?_, ?_, ?_, ?_⟩
  · intro σ s
    rw [takeWith, drawWith_const, take]
  · simp only [take, draw_add]
  · rw [takeFront, take, draw_always]
  · intro hdisjoint
    have hswapped : ∀ x ∈ pool.items, ¬ (q x = true ∧ p x = true) :=
      fun x hx hboth => hdisjoint x hx hboth.symm
    refine ⟨draw_taken_of_disjoint m n hdisjoint, draw_taken_of_disjoint n m hswapped, ?_⟩
    exact congrArg Pool.mk (draw_left_comm m n hdisjoint)

/-- Draws of even and of odd numbers change places, with limits below and above what there is. -/
theorem draws_compose_sample :
    let pool : Pool Nat := ⟨[1, 2, 3, 4, 6]⟩
    let even := fun x : Nat => x % 2 == 0
    let odd := fun x : Nat => x % 2 == 1
    (∀ x ∈ pool.items, ¬ (even x = true ∧ odd x = true)) ∧
      pool.take even (1 + 1) = ([2, 4], ⟨[1, 3, 6]⟩) ∧
      ((pool.take even 2).2.take odd 5).1 = [1, 3] ∧
      ((pool.take odd 5).2.take even 2).2 = ⟨[6]⟩ := by
  intro pool even odd
  have hdisjoint : ∀ x ∈ pool.items, ¬ (even x = true ∧ odd x = true) := by decide
  obtain ⟨-, htwice, -, -⟩ := draws_compose pool even odd 1 1
  obtain ⟨-, -, -, hswap⟩ := draws_compose pool even odd 2 5
  obtain ⟨hodd, -, hleft⟩ := hswap hdisjoint
  refine ⟨hdisjoint, ?_, ?_, ?_⟩
  · rw [← htwice]
    decide
  · rw [hodd]
    decide
  · rw [← hleft]
    decide

end Newsfeed.Pool
