import Newsfeed.Item

/-!
# Publishers and enablement

A publisher is on or off by default, and the user may decide otherwise. The feed only asks which
publisher ids are on.

* `Enablement.ofPublishers` : the table of a list of records; of several records with one id the
  last one counts.
* `Enablement.filter` : the items of publishers that are on, in order.
* `get?_insert` : an entry replaces the one that its id had and leaves all others alone.
-/

namespace Newsfeed

/-- A source of items. -/
structure Publisher where
  id : String
  name : String
  category : String := ""
  paddedLogo : String := ""
  /-- Whether it is on by default. -/
  enabled : Bool := false
  /-- The user's own choice, if there is one. -/
  userEnabled : Option Bool := none
deriving DecidableEq, Repr

/-- The user's choice decides; without one the default does. -/
def Publisher.isEnabled (p : Publisher) : Bool := p.userEnabled.getD p.enabled

/-- Which publisher ids are on and which are off; ids that are not listed are off. -/
structure Enablement where
  entries : List (String × Bool) := []
deriving DecidableEq, Repr

namespace Enablement

/-- Replaces the entry of an id in place, or adds one at the end. -/
def put (id : String) (on : Bool) : List (String × Bool) → List (String × Bool)
  | [] => [(id, on)]
  | e :: rest => if e.1 = id then (id, on) :: rest else e :: put id on rest

/-- The table with one entry set. -/
def insert (t : Enablement) (id : String) (on : Bool) : Enablement := ⟨put id on t.entries⟩

/-- What the table says of an id. -/
def get? (t : Enablement) (id : String) : Option Bool := t.entries.lookup id

/-- Whether an id is on. -/
def isOn (t : Enablement) (id : String) : Bool := t.get? id == some true

/-- The table of a list of entries, later entries first in rank. -/
def ofList (es : List (String × Bool)) : Enablement :=
  es.foldl (fun t e => t.insert e.1 e.2) {}

/-- The table of a list of publisher records. -/
def ofPublishers (ps : List Publisher) : Enablement :=
  ofList (ps.map fun p => (p.id, p.isEnabled))

/-- The items whose publisher is on, in order. -/
def filter (t : Enablement) (items : List Item) : List Item :=
  items.filter fun it => t.isOn it.publisherId

/-- How many items the filter drops. -/
def dropped (t : Enablement) (items : List Item) : Nat := items.length - (t.filter items).length

/-- What the filter keeps are the items whose publisher is on. -/
theorem mem_filter_iff {t : Enablement} {items : List Item} {it : Item} :
    it ∈ t.filter items ↔ it ∈ items ∧ t.get? it.publisherId = some true := by
  rw [filter, List.mem_filter, isOn, beq_iff_eq]

theorem lookup_cons (key : String) (e : String × Bool) (es : List (String × Bool)) :
    (e :: es).lookup key = if key = e.1 then some e.2 else es.lookup key := by
  obtain ⟨k, v⟩ := e
  rw [List.lookup_cons]
  by_cases h : key = k
  · simp [h]
  · simp [beq_false_of_ne h, h]

@[simp]
theorem lookup_put (id key : String) (on : Bool) (es : List (String × Bool)) :
    (put id on es).lookup key = if key = id then some on else es.lookup key := by
  induction es with
  | nil => simp [put, lookup_cons]
  | cons e rest ih =>
    by_cases he : e.1 = id
    · subst he
      by_cases h : key = e.1 <;> simp [put, lookup_cons, h]
    · by_cases h : key = e.1
      · simp [put, he, lookup_cons, h]
      · simp [put, he, lookup_cons, h, ih]

@[simp]
theorem get?_insert (t : Enablement) (id key : String) (on : Bool) :
    (t.insert id on).get? key = if key = id then some on else t.get? key :=
  lookup_put id key on t.entries

end Enablement

end Newsfeed
