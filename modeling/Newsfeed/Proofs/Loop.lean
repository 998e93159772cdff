import Mathlib.Data.List.Perm.Basic

/-! # Loops that stop at the first failed step

A loop makes one step after another on a state, each with an output, until a step fails or the
ceiling is reached. Each rule asks for a fact about one step and gives it for a whole loop:

* `loop_perm`, `loop_sublist`: conservation, and conservation in order;
* `loop_invariant`, `forall_mem_loop`: invariants of the state, facts about every output;
* `loop_split`: what follows an output is the loop from the state after its step;
* `loop_getElem?`: output `i` is that of a step between the states after `i` and `i + 1` steps;
* `loop_stuck`: a loop that ends below the ceiling has stopped at a failing step;
* `loop_simulates`: a loop whose steps follow those of another follows it to the end;
* `loop_follows`: the same if the other loop may go on where this one fails;
* `loop_take`, `loop_add`: a lower ceiling gives the first outputs, and a loop that has reached it
  can be resumed.
-/

namespace Newsfeed

variable {α σ τ π ρ : Type}

/-- Makes steps until one fails, at most `ceiling` of them. A step is told how many were made
before it. The result is the list of outputs and the last state. -/
def loop : Nat → (Nat → σ → Option (π × σ)) → σ → List π × σ
  | 0, _, s => ([], s)
  | ceiling + 1, step, s =>
    match step 0 s with
    | none => ([], s)
    | some (out, s') =>
      let later := loop ceiling (fun i => step (i + 1)) s'
      (out :: later.1, later.2)

attribute [grind =] loop

variable {step : Nat → σ → Option (π × σ)}

/-- Conservation: if each step moves entries from the state to its output, so does a loop. -/
theorem loop_perm (entries : σ → List α) (contents : π → List α)
    (hstep : ∀ i s out s', step i s = some (out, s') →
      (contents out ++ entries s').Perm (entries s)) (ceiling : Nat) (s : σ) :
    ((loop ceiling step s).1.flatMap contents ++ entries (loop ceiling step s).2).Perm
      (entries s) := by
  induction ceiling generalizing step s with
  | zero => simp [loop]
  | succ ceiling ih =>
      rw [loop]
      split
      · simp
      · rename_i out s' hs
        have hlater := (ih (fun i => hstep (i + 1)) s').append_left (contents out)
        simp only [List.flatMap_cons, List.append_assoc]
        exact hlater.trans (hstep 0 s out s' hs)

/-- Conservation in order: if each step moves entries from the front of the state to its output, and
drops others, so does a loop. -/
theorem loop_sublist (entries : σ → List α) (contents : π → List α)
    (hstep : ∀ i s out s', step i s = some (out, s') →
      (contents out ++ entries s').Sublist (entries s)) (ceiling : Nat) (s : σ) :
    ((loop ceiling step s).1.flatMap contents ++ entries (loop ceiling step s).2).Sublist
      (entries s) := by
  induction ceiling generalizing step s with
  | zero => simp [loop]
  | succ ceiling ih =>
      rw [loop]
      split
      · simp
      · rename_i out s' hs
        have hlater := (ih (fun i => hstep (i + 1)) s').append_left (contents out)
        simp only [List.flatMap_cons, List.append_assoc]
        exact hlater.trans (hstep 0 s out s' hs)

/-- What every step keeps, a loop keeps. -/
theorem loop_invariant (inv : σ → Prop)
    (hstep : ∀ i s out s', step i s = some (out, s') → inv s → inv s') (ceiling : Nat) {s : σ}
    (hs : inv s) : inv (loop ceiling step s).2 := by
  induction ceiling generalizing step s with
  | zero => exact hs
  | succ ceiling ih =>
      rw [loop]
      split
      · exact hs
      · rename_i out s' heq
        exact ih (fun i => hstep (i + 1)) (hstep 0 s out s' heq hs)

/-- What holds of the output of every step holds of all outputs of a loop. -/
theorem forall_mem_loop (good : π → Prop)
    (hstep : ∀ i s out s', step i s = some (out, s') → good out) (ceiling : Nat) (s : σ) :
    ∀ out ∈ (loop ceiling step s).1, good out := by
  induction ceiling generalizing step s with
  | zero => grind
  | succ ceiling ih =>
      intro out hout
      rw [loop] at hout
      split at hout
      · simp at hout
      · rename_i first s' heq
        rcases List.mem_cons.mp hout with rfl | hlater
        · exact hstep 0 s _ s' heq
        · exact ih (fun i => hstep (i + 1)) s' out hlater

/-- A loop makes no more steps than the ceiling allows. -/
theorem loop_length_le (ceiling : Nat) (s : σ) : (loop ceiling step s).1.length ≤ ceiling := by
  induction ceiling generalizing step s with
  | zero => grind
  | succ ceiling ih =>
      rw [loop]
      split
      · simp
      · simpa using ih _

/-- At each of its outputs, a loop has made one step from the state after the outputs before it, and
goes on as a loop from the next state. -/
theorem loop_split {ceiling : Nat} {s : σ} {before after : List π} {out : π}
    (h : (loop ceiling step s).1 = before ++ out :: after) :
    ∃ next, step before.length (loop before.length step s).2 = some (out, next) ∧
      loop (ceiling - (before.length + 1)) (fun i => step (i + (before.length + 1))) next =
        (after, (loop ceiling step s).2) := by
  induction before generalizing ceiling step s with
  | nil =>
      cases ceiling with
      | zero => grind
      | succ ceiling =>
          rw [loop] at h ⊢
          split at h
          · simp at h
          · rename_i first next heq
            obtain ⟨rfl, rfl⟩ := List.cons.inj h
            exact ⟨next, heq, by simp⟩
  | cons b before ih =>
      cases ceiling with
      | zero => grind
      | succ ceiling =>
          rw [loop] at h ⊢
          split at h
          · simp at h
          · rename_i first s' heq
            obtain ⟨next, hnext, hlater⟩ := ih (List.cons.inj h).2
            refine ⟨next, ?_, ?_⟩
            · simpa [loop, heq] using hnext
            · simpa [Nat.add_assoc] using hlater

/-- Output `i` is that of step `i`, which leads from the state after `i` steps to the next. -/
theorem loop_getElem? {ceiling i : Nat} {s : σ} {out : π}
    (h : (loop ceiling step s).1[i]? = some out) :
    step i (loop i step s).2 = some (out, (loop (i + 1) step s).2) := by
  induction i generalizing ceiling step s with
  | zero =>
      cases ceiling with
      | zero => grind
      | succ ceiling =>
          rw [loop] at h
          split at h
          · simp at h
          · rename_i first s' heq
            obtain rfl : first = out := by simpa using h
            simp [loop, heq]
  | succ i ih =>
      cases ceiling with
      | zero => grind
      | succ ceiling =>
          rw [loop] at h
          split at h
          · simp at h
          · rename_i first s' heq
            have hloop : ∀ n, (loop (n + 1) step s).2 = (loop n (fun j => step (j + 1)) s').2 := by
              intro n
              rw [loop, heq]
            rw [hloop, hloop]
            exact ih (by simpa using h)

/-- A loop that ends below the ceiling has stopped at a failing step. -/
theorem loop_stuck {ceiling : Nat} {s : σ} (h : (loop ceiling step s).1.length < ceiling) :
    step (loop ceiling step s).1.length (loop ceiling step s).2 = none := by
  induction ceiling generalizing step s with
  | zero => simp at h
  | succ ceiling ih =>
      rw [loop] at h ⊢
      split at h
      · rename_i heq
        simp [heq]
      · rename_i out s' heq
        simpa [heq] using ih (by simpa using h)

/-- A loop whose steps are the steps of another, seen through `outOf` and `stateOf`, is that other
loop seen so. -/
theorem loop_simulates {step' : Nat → τ → Option (ρ × τ)} {outOf : π → ρ} {stateOf : σ → τ}
    (hstep : ∀ i s, step' i (stateOf s) = (step i s).map (Prod.map outOf stateOf))
    (ceiling : Nat) (s : σ) :
    loop ceiling step' (stateOf s) =
      Prod.map (List.map outOf) stateOf (loop ceiling step s) := by
  induction ceiling generalizing step step' s with
  | zero => rfl
  | succ ceiling ih =>
      rw [loop, loop, hstep]
      cases step 0 s with
      | none => rfl
      | some r =>
          have hlater := ih (fun i => hstep (i + 1)) r.2
          simp [Prod.map, hlater]

/-- A loop whose steps are steps of another, seen through `outOf` and `stateOf`, is that other loop
with as many steps. -/
theorem loop_follows {step' : Nat → τ → Option (ρ × τ)} {outOf : π → ρ} {stateOf : σ → τ}
    (hstep : ∀ i s out s', step i s = some (out, s') →
      step' i (stateOf s) = some (outOf out, stateOf s')) (ceiling : Nat) (s : σ) :
    loop (loop ceiling step s).1.length step' (stateOf s) =
      Prod.map (List.map outOf) stateOf (loop ceiling step s) := by
  induction ceiling generalizing step step' s with
  | zero => rfl
  | succ ceiling ih =>
      rw [loop]
      split
      · rfl
      · rename_i out s' heq
        have hlater := ih (fun i => hstep (i + 1)) s'
        simp [loop, hstep 0 s out s' heq, hlater, Prod.map]

/-- With as many steps as it has made, a loop is the same. -/
theorem loop_length_self (ceiling : Nat) (s : σ) :
    loop (loop ceiling step s).1.length step s = loop ceiling step s := by
  have hself := @loop_follows σ σ π π step step id id (fun _ _ _ _ h => h) ceiling s
  simpa using hself

/-! ## Ceilings -/

/-- Under a lower ceiling, a loop has the first of its outputs. -/
theorem loop_take {m n : Nat} (hmn : m ≤ n) (s : σ) :
    (loop m step s).1 = (loop n step s).1.take m := by
  induction m generalizing n step s with
  | zero => grind
  | succ m ih =>
      obtain ⟨n, rfl⟩ : ∃ k, n = k + 1 := ⟨n - 1, by omega⟩
      rw [loop, loop]
      split
      · simp
      · simpa using ih (by omega) _

theorem loop_of_step_eq_none {s : σ} (hnone : ∀ i, step i s = none) (ceiling : Nat) :
    loop ceiling step s = ([], s) := by
  cases ceiling with
  | zero => rfl
  | succ ceiling => rw [loop, hnone 0]

/-- A loop can be resumed where a lower ceiling has ended it. If a step fails instead, no step may
work there, whatever its number. -/
theorem loop_add (hfail : ∀ i j s, step i s = none → step j s = none) (m k : Nat) (s : σ) :
    let first := loop m step s
    let second := loop k (fun i => step (i + m)) first.2
    loop (m + k) step s = (first.1 ++ second.1, second.2) := by
  intro first second
  induction m generalizing step s with
  | zero => simp [second, first, loop]
  | succ m ih =>
      rw [Nat.add_right_comm, loop]
      split
      · -- the first loop has failed at once, and so does the second at the same state
        rename_i hnone
        have hfirst : first = ([], s) := by simp only [first, loop, hnone]
        have hsecond : second = ([], s) := by
          simp only [second, hfirst]
          exact loop_of_step_eq_none (fun i => hfail 0 _ s hnone) k
        rw [hfirst, hsecond]
        rfl
      · rename_i out s' heq
        have hlater := ih (fun i j => hfail (i + 1) (j + 1)) s'
        simp only [first, second, loop, heq, hlater]
        rfl

end Newsfeed
