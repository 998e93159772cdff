/-!
# Tallies

A tally counts keys as they come. It has one entry a key, in order of first appearance, and an index
that tells where the entry of a key stands, so that a key that has been seen before is counted by a
single access.

* `Tally.count?` : counts one more of a key; it fails if the index points at no entry.
* `Tally.ofKeys?` : counts keys one after the other.
* `Tally.IsIndexed` : the index points at the entry of its own key, for every key that has one.
* `IsIndexed.exists_count?`, `exists_ofKeys?` : so no access fails, whatever the keys.
-/

namespace Newsfeed

/-- A count of keys: one entry a key, in order of first appearance, and an index that tells where
the entry of a key stands. -/
structure Tally where
  entries : List (String × Nat) := []
  index : List (String × Nat) := []
deriving DecidableEq, Repr

namespace Tally

/-- Counts one more of a key, in a new entry at the end if the index does not know it. Fails if the
index points behind the entries. -/
def count? (t : Tally) (key : String) : Option Tally :=
  match t.index.lookup key with
  | none => some ⟨t.entries ++ [(key, 1)], (key, t.entries.length) :: t.index⟩
  | some i => t.entries[i]?.map fun e => { t with entries := t.entries.set i (e.1, e.2 + 1) }

/-- Counts keys one after the other. -/
def ofKeys? (keys : List String) : Option Tally := keys.foldlM count? {}

/-- The keys that have an entry. -/
def keys (t : Tally) : List String := t.entries.map (·.1)

/-- The index points at the entry of a key for every key that has one, and knows no other keys. -/
def IsIndexed (t : Tally) : Prop :=
  ∀ (key : String) (i : Nat), t.index.lookup key = some i ↔ t.keys[i]? = some key

theorem isIndexed_empty : IsIndexed {} := by
  intro key i
  simp [keys]

/-- One more key at the end stands there, and the others stand where they were. -/
theorem getElem?_concat_eq_some_iff {keys : List String} {key k : String} {i : Nat} :
    (keys ++ [key])[i]? = some k ↔ keys[i]? = some k ∨ i = keys.length ∧ k = key := by
  rcases Nat.lt_trichotomy i keys.length with hlt | rfl | hgt
  · rw [List.getElem?_append_left hlt]
    simp [Nat.ne_of_lt hlt]
  · simp [eq_comm]
  · rw [List.getElem?_eq_none (by simp; omega), List.getElem?_eq_none (by omega)]
    simp [Nat.ne_of_gt hgt]

/-- A key that the index does not know gets an entry at the end, and the index learns of it. -/
theorem count?_of_lookup_eq_none {t : Tally} (h : t.IsIndexed) {key : String}
    (hkey : t.index.lookup key = none) :
    ∃ t', t.count? key = some t' ∧ t'.IsIndexed ∧ t'.entries = t.entries ++ [(key, 1)] := by
  refine ⟨⟨t.entries ++ [(key, 1)], (key, t.entries.length) :: t.index⟩, ?_, ?_, rfl⟩
  · rw [count?, hkey]
  · intro k i
    have hkeys : keys ⟨t.entries ++ [(key, 1)], (key, t.entries.length) :: t.index⟩ =
        t.keys ++ [key] := by simp [keys]
    have hlength : t.entries.length = t.keys.length := by simp [keys]
    rw [hkeys, getElem?_concat_eq_some_iff, List.lookup_cons, hlength, ← h k i]
    by_cases hk : k = key
    · simp [hk, hkey, eq_comm]
    · rw [beq_eq_false_iff_ne.mpr hk]
      simp [hk]

/-- A key that the index knows is counted at its entry, and the index stays what it is. -/
theorem count?_of_lookup_eq_some {t : Tally} (h : t.IsIndexed) {key : String} {i : Nat}
    (hkey : t.index.lookup key = some i) :
    ∃ t' n, t.count? key = some t' ∧ t'.IsIndexed ∧ t.entries[i]? = some (key, n) ∧
      t'.entries = t.entries.set i (key, n + 1) := by
  have hpoints := (h key i).mp hkey
  rw [keys, List.getElem?_map] at hpoints
  obtain ⟨⟨k, n⟩, hentry, hk⟩ := Option.map_eq_some_iff.mp hpoints
  obtain rfl : k = key := hk
  refine ⟨{ t with entries := t.entries.set i (k, n + 1) }, n, ?_, ?_, hentry, rfl⟩
  · rw [count?, hkey]
    simp only [hentry, Option.map_some]
  · -- the entry keeps its key, so the keys are what they were
    have hkeys : keys { t with entries := t.entries.set i (k, n + 1) } = t.keys := by
      obtain ⟨hi, hk⟩ := List.getElem?_eq_some_iff.mp ((h k i).mp hkey)
      rw [keys, List.map_set, ← keys, ← hk, List.set_getElem_self]
    intro l j
    rw [hkeys]
    exact h l j

/-- Counting one more key never fails. -/
theorem IsIndexed.exists_count? {t : Tally} (h : t.IsIndexed) (key : String) :
    ∃ t', t.count? key = some t' ∧ t'.IsIndexed := by
  cases hkey : t.index.lookup key with
  | none =>
      obtain ⟨t', hcount, hindexed, -⟩ := count?_of_lookup_eq_none h hkey
      exact ⟨t', hcount, hindexed⟩
  | some i =>
      obtain ⟨t', -, hcount, hindexed, -⟩ := count?_of_lookup_eq_some h hkey
      exact ⟨t', hcount, hindexed⟩

/-- Counting keys never fails, and at its end the index is right. -/
theorem IsIndexed.exists_foldlM {t : Tally} (h : t.IsIndexed) (keys : List String) :
    ∃ t', keys.foldlM count? t = some t' ∧ t'.IsIndexed := by
  induction keys generalizing t with
  | nil => exact ⟨t, rfl, h⟩
  | cons key keys ih =>
      obtain ⟨next, hcount, hnext⟩ := h.exists_count? key
      obtain ⟨t', hrest, hindexed⟩ := ih hnext
      refine ⟨t', ?_, hindexed⟩
      rw [List.foldlM_cons, hcount]
      exact hrest

theorem exists_ofKeys? (keys : List String) : ∃ t, ofKeys? keys = some t ∧ t.IsIndexed :=
  isIndexed_empty.exists_foldlM keys

theorem isSome_ofKeys? (keys : List String) : (ofKeys? keys).isSome = true := by
  obtain ⟨t, ht, -⟩ := exists_ofKeys? keys
  exact Option.isSome_of_eq_some ht

end Tally

end Newsfeed
