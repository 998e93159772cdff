/-!
# Pools

A pool is an ordered working set from which items are drawn without replacement. What is drawn
keeps its order, and so does what is left, so an item leaves a pool at most once.

* `Pool.takeWith` : draws up to a limit of items that a test with a state of its own accepts. The
  test sees the items in order and is not asked again once the limit is reached.
* `Pool.take` : the same for a test without state.
* `Pool.takeFront` : draws from the front whatever is there.
* `take_perm`, `left_sublist` : nothing is lost or invented, and what is left keeps its order.
-/

namespace Newsfeed

/-- An ordered working set. -/
structure Pool (α : Type) where
  items : List α := []
deriving DecidableEq, Repr

namespace Pool

variable {α σ : Type}

/-- The number of items in a pool. -/
def size (p : Pool α) : Nat := p.items.length

/-- Whether a pool has run dry. -/
def isEmpty (p : Pool α) : Bool := p.items.isEmpty

/-- The first item that passes the test, left where it is. -/
def find? (p : Pool α) (test : α → Bool) : Option α := p.items.find? test

/-- What a draw by a test with state returns: the items taken, the items left, and the state of
the test afterwards. -/
structure Draw (α σ : Type) where
  taken : List α
  left : List α
  state : σ

/-- Draws up to `limit` accepted items from a list. -/
def drawWith (test : σ → α → Bool × σ) : Nat → σ → List α → Draw α σ
  | 0, s, xs => ⟨[], xs, s⟩
  | _ + 1, s, [] => ⟨[], [], s⟩
  | n + 1, s, x :: xs =>
    match test s x with
    | (true, s') =>
      let d := drawWith test n s' xs
      ⟨x :: d.taken, d.left, d.state⟩
    | (false, s') =>
      let d := drawWith test (n + 1) s' xs
      ⟨d.taken, x :: d.left, d.state⟩

/-- The first item that a test with state accepts, and the state of the test afterwards. Items
after it are not tested. -/
def findWith (test : σ → α → Bool × σ) : σ → List α → Option α × σ
  | s, [] => (none, s)
  | s, x :: xs =>
    match test s x with
    | (true, s') => (some x, s')
    | (false, s') => findWith test s' xs

/-- Draws up to `limit` accepted items from the pool; the test carries a state from one item to the
next. -/
def takeWith (p : Pool α) (test : σ → α → Bool × σ) (limit : Nat) (s : σ) :
    List α × Pool α × σ :=
  let d := drawWith test limit s p.items
  (d.taken, ⟨d.left⟩, d.state)

/-- Draws up to `limit` items that pass the test from a list: the items taken and the items
left. -/
def draw (test : α → Bool) : Nat → List α → List α × List α
  | 0, xs => ([], xs)
  | _ + 1, [] => ([], [])
  | n + 1, x :: xs =>
    if test x then
      let d := draw test n xs
      (x :: d.1, d.2)
    else
      let d := draw test (n + 1) xs
      (d.1, x :: d.2)

/-- Draws up to `limit` items that pass the test. -/
def take (p : Pool α) (test : α → Bool) (limit : Nat) : List α × Pool α :=
  let d := draw test limit p.items
  (d.1, ⟨d.2⟩)

/-- Draws up to `n` items from the front. -/
def takeFront (p : Pool α) (n : Nat) : List α × Pool α := (p.items.take n, ⟨p.items.drop n⟩)

/-! ## Laws of a draw -/

attribute [grind =] drawWith draw

theorem draw_zero (test : α → Bool) (xs : List α) : draw test 0 xs = ([], xs) := by
  rw [draw]

theorem draw_nil (test : α → Bool) (n : Nat) : draw test n [] = ([], []) := by
  cases n <;> rw [draw]

theorem draw_cons_of_pos {test : α → Bool} {x : α} (h : test x = true) (n : Nat) (xs : List α) :
    draw test (n + 1) (x :: xs) = (x :: (draw test n xs).1, (draw test n xs).2) := by
  rw [draw, if_pos h]

/-- An item that does not pass stays at the front, also if the limit is zero. -/
theorem draw_cons_of_neg {test : α → Bool} {x : α} (h : ¬ test x = true) (n : Nat) (xs : List α) :
    draw test n (x :: xs) = ((draw test n xs).1, x :: (draw test n xs).2) := by
  cases n with
  | zero => rw [draw_zero, draw_zero]
  | succ n => rw [draw, if_neg h]

/-- A test without state draws what the same test draws with a state that it ignores. -/
theorem drawWith_const (test : α → Bool) (n : Nat) (s : σ) (xs : List α) :
    drawWith (fun s x => (test x, s)) n s xs = ⟨(draw test n xs).1, (draw test n xs).2, s⟩ := by
  fun_induction draw test n xs with
  | case1 => simp [drawWith]
  | case2 => simp [drawWith]
  | case3 n x xs h d ih => simp [drawWith, h, ih, d]
  | case4 n x xs h d ih => simp [drawWith, h, ih, d]

/-- What is taken and what is left are together what was there. -/
theorem draw_perm (test : α → Bool) (n : Nat) (xs : List α) :
    ((draw test n xs).1 ++ (draw test n xs).2).Perm xs := by
  fun_induction draw test n xs with
  | case1 => simp
  | case2 => simp
  | case3 n x xs h d ih => simpa [d] using ih
  | case4 n x xs h d ih => exact List.perm_middle.trans (by simpa [d] using ih)

/-- What is left keeps its order. -/
theorem draw_left_sublist (test : α → Bool) (n : Nat) (xs : List α) :
    (draw test n xs).2.Sublist xs := by
  fun_induction draw test n xs with
  | case1 => exact .refl _
  | case2 => exact .refl _
  | case3 n x xs h d ih => exact ih.cons x
  | case4 n x xs h d ih => exact ih.cons_cons x

/-- The items taken are the first ones that match. -/
theorem draw_taken (test : α → Bool) (n : Nat) (xs : List α) :
    (draw test n xs).1 = (xs.filter test).take n := by
  fun_induction draw test n xs with
  | case1 => simp
  | case2 => simp
  | case3 n x xs h d ih => simpa [List.filter_cons_of_pos h] using ih
  | case4 n x xs h d ih => simpa [List.filter_cons_of_neg h] using ih

/-- What is taken keeps its order. -/
theorem draw_taken_sublist (test : α → Bool) (n : Nat) (xs : List α) :
    (draw test n xs).1.Sublist xs := by
  rw [draw_taken]
  exact (List.take_sublist _ _).trans List.filter_sublist

/-- Only accepted items are taken. -/
theorem of_mem_draw (test : α → Bool) (n : Nat) (xs : List α) {a : α}
    (h : a ∈ (draw test n xs).1) : test a = true := by
  rw [draw_taken] at h
  exact (List.mem_filter.mp (List.mem_of_mem_take h)).2

/-- No more items are taken than the limit allows. -/
theorem length_draw_le (test : α → Bool) (n : Nat) (xs : List α) :
    (draw test n xs).1.length ≤ n := by
  rw [draw_taken]
  exact List.length_take_le _ _

end Pool

end Newsfeed
