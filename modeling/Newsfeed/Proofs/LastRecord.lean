import Mathlib.Data.List.Induction
import Newsfeed.Publisher

/-! # Which record of a publisher counts

Publisher records become a table of entries, one for each id. A list of records may have several
with the same id: the table is filled from left to right and an entry replaces the one before it, so
the last record of an id decides whether its items are kept.

* `lastRecord?`: the last record of an id, with `lastRecord?_eq_some_iff` for what makes it the last;
* `Enablement.get?_ofPublishers`: the table says of an id what its last record says;
* `Enablement.filter_filter`: what the filter keeps it keeps again;
* `last_record_decides`: the filter in terms of the records.
-/

namespace Newsfeed

/-- The last record of an id. -/
def lastRecord? (ps : List Publisher) (id : String) : Option Publisher :=
  ps.reverse.find? (·.id == id)

/-- A record is the last one of its id if no record after it has this id. -/
theorem lastRecord?_eq_some_iff {ps : List Publisher} {id : String} {p : Publisher} :
    lastRecord? ps id = some p ↔
      p.id = id ∧ ∃ before after, ps = before ++ p :: after ∧ ∀ q ∈ after, q.id ≠ id := by
  rw [lastRecord?, List.find?_eq_some_iff_append, beq_iff_eq]
  refine and_congr_right fun _ => ?_
  constructor
  · rintro ⟨after, before, hps, hafter⟩
    refine ⟨before.reverse, after.reverse, ?_, ?_⟩
    · rw [← List.reverse_reverse ps, hps]
      simp
    · intro q hq
      simpa using hafter q (List.mem_reverse.mp hq)
  · rintro ⟨before, after, rfl, hafter⟩
    refine ⟨after.reverse, before.reverse, by simp, ?_⟩
    intro q hq
    simpa using hafter q (List.mem_reverse.mp hq)

/-- One more record is the last one of its id. -/
theorem lastRecord?_concat (ps : List Publisher) (p : Publisher) (id : String) :
    lastRecord? (ps ++ [p]) id = if id = p.id then some p else lastRecord? ps id := by
  rw [lastRecord?, List.reverse_append, List.reverse_singleton, List.singleton_append,
    List.find?_cons]
  by_cases h : id = p.id
  · simp [h]
  · simp [h, lastRecord?, beq_false_of_ne (Ne.symm h)]

namespace Enablement

/-- One more record sets the entry of its id. -/
theorem ofPublishers_concat (ps : List Publisher) (p : Publisher) :
    ofPublishers (ps ++ [p]) = (ofPublishers ps).insert p.id p.isEnabled := by
  simp [ofPublishers, ofList]

/-- The table says of an id what its last record says. -/
theorem get?_ofPublishers (ps : List Publisher) (id : String) :
    (ofPublishers ps).get? id = (lastRecord? ps id).map Publisher.isEnabled := by
  -- records are entered from the left, so the induction takes them off at the end
  induction ps using List.reverseRecOn with
  | nil => rfl
  | append_singleton ps p ih =>
      rw [ofPublishers_concat, get?_insert, lastRecord?_concat, ih]
      split <;> rfl

/-- What the filter keeps it keeps again. -/
theorem filter_filter (t : Enablement) (items : List Item) :
    t.filter (t.filter items) = t.filter items := by
  rw [filter, filter, List.filter_filter]
  simp only [Bool.and_self]

theorem dropped_add_length_filter (t : Enablement) (items : List Item) :
    t.dropped items + (t.filter items).length = items.length :=
  Nat.sub_add_cancel (List.length_filter_le _ _)

/-- An item is kept if its publisher has a last record and this is on. -/
theorem filter_ofPublishers (ps : List Publisher) (items : List Item) :
    (ofPublishers ps).filter items = items.filter fun it =>
      match lastRecord? ps it.publisherId with
      | some p => p.userEnabled.getD p.enabled
      | none => false := by
  apply List.filter_congr
  intro it _
  rw [isOn, get?_ofPublishers]
  cases lastRecord? ps it.publisherId with
  | none => rfl
  | some p =>
      change (some p.isEnabled == some true) = p.isEnabled
      cases p.isEnabled <;> rfl

end Enablement

/-- The last record of an id decides. What is kept are, in order, the items whose publisher has a
last record that is on, by the user's choice or, without one, by default. Nothing is lost from the
count, and filtering again drops nothing. So two lists of records that agree on the last record of
every id keep and drop the same. -/
theorem last_record_decides (ps : List Publisher) (items : List Item) :
    let t := Enablement.ofPublishers ps
    (∀ id p, lastRecord? ps id = some p ↔
      p.id = id ∧ ∃ before after, ps = before ++ p :: after ∧ ∀ q ∈ after, q.id ≠ id) ∧
    (t.filter items = items.filter fun it =>
      match lastRecord? ps it.publisherId with
      | some p => p.userEnabled.getD p.enabled
      | none => false) ∧
    t.dropped items + (t.filter items).length = items.length ∧
    t.filter (t.filter items) = t.filter items ∧ t.dropped (t.filter items) = 0 ∧
    (∀ qs : List Publisher, (∀ id, lastRecord? qs id = lastRecord? ps id) →
      (Enablement.ofPublishers qs).filter items = t.filter items ∧
        (Enablement.ofPublishers qs).dropped items = t.dropped items) := by
  intro t
  refine ⟨fun _ _ => lastRecord?_eq_some_iff, Enablement.filter_ofPublishers ps items,
    t.dropped_add_length_filter items, t.filter_filter items, ?_, ?_⟩
  · rw [Enablement.dropped, t.filter_filter, Nat.sub_self]
  · intro qs hsame
    have hkept : (Enablement.ofPublishers qs).filter items = t.filter items := by
      rw [Enablement.filter_ofPublishers, Enablement.filter_ofPublishers]
      simp only [hsame]
    exact ⟨hkept, by rw [Enablement.dropped, Enablement.dropped, hkept]⟩

/-- Two publishers whose later records take back what the earlier ones say. -/
def repeatedRecords : List Publisher :=
  [{ id := "a", name := "A", enabled := true }, { id := "b", name := "B" },
    { id := "a", name := "A", enabled := true, userEnabled := some false },
    { id := "b", name := "B", userEnabled := some true }]

/-- The later records alone, in another order. -/
def lastRecords : List Publisher :=
  [{ id := "b", name := "B", userEnabled := some true },
    { id := "a", name := "A", enabled := true, userEnabled := some false }]

theorem last_record_decides_sample :
    let first := (Item.article "first" "").withPublisher "b" "B"
    let second := (Item.article "second" "").withPublisher "b" "B"
    let items := [first, (Item.article "off" "").withPublisher "a" "A",
      (Item.article "unknown" "").withPublisher "c" "C", second]
    (∀ id, lastRecord? lastRecords id = lastRecord? repeatedRecords id) ∧
      (Enablement.ofPublishers repeatedRecords).filter items = [first, second] ∧
      (Enablement.ofPublishers lastRecords).filter items = [first, second] := by
  intro first second items
  have hsame : ∀ id, lastRecord? lastRecords id = lastRecord? repeatedRecords id := by
    intro id
    rcases eq_or_ne id "a" with rfl | ha
    · decide
    · rcases eq_or_ne id "b" with rfl | hb
      · decide
      · simp [lastRecord?, lastRecords, repeatedRecords, ha.symm, hb.symm]
  obtain ⟨-, hkept, -, -, -, hcongr⟩ := last_record_decides repeatedRecords items
  have hfirst : (Enablement.ofPublishers repeatedRecords).filter items = [first, second] := by
    rw [hkept]
    decide
  exact ⟨hsame, hfirst, (hcongr lastRecords hsame).1.trans hfirst⟩

end Newsfeed
