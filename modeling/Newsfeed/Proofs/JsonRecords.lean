import Mathlib.Data.List.Basic
import Newsfeed.Json

/-! # Records and their fields

An object is written as a list of fields under keys of which none is repeated. Reading it looks every
key up, so it comes upon the value that was written under that key, and upon nothing where a field
was left out.

* `exists_record?_object`: the fields of an object, key by key;
* `optional?_of_lookup`, `list?_map`: optional fields and lists are read as they were written;
* `depth_object_le`, `denotes_object`: how deep an object goes, and whether it makes sense, is told by
  its fields.
-/

namespace Newsfeed.Json

/-! ## Looking up -/

/-- The fields of an object whose keys are texts. -/
def named (fs : List (String × Json)) : List (Option String × Json) :=
  fs.map fun f => (some f.1, f.2)

variable {fs : List (String × Json)}

theorem valuesOf_named_cons (key : String) (f : String × Json) :
    valuesOf key (named (f :: fs)) =
      if f.1 = key then f.2 :: valuesOf key (named fs) else valuesOf key (named fs) := by
  simp only [valuesOf, named, List.map_cons, List.filter_cons, beq_iff_eq, Option.some.injEq]
  split <;> rfl

theorem valuesOf_named_of_notMem {key : String} (h : key ∉ fs.map Prod.fst) :
    valuesOf key (named fs) = [] := by
  induction fs with
  | nil => rfl
  | cons f fs ih =>
    rw [List.map_cons, List.mem_cons, not_or] at h
    rw [valuesOf_named_cons, if_neg (Ne.symm h.1), ih h.2]

/-- If no key is repeated, a key has the value that is looked up, or none. -/
theorem valuesOf_named (hnodup : (fs.map Prod.fst).Nodup) (key : String) :
    valuesOf key (named fs) = (fs.lookup key).toList := by
  induction fs with
  | nil => rfl
  | cons f fs ih =>
    rw [List.map_cons, List.nodup_cons] at hnodup
    rw [valuesOf_named_cons, List.lookup_cons]
    by_cases h : f.1 = key
    · -- the key stands here, so it stands nowhere else
      rw [if_pos h, ← h, beq_self_eq_true, valuesOf_named_of_notMem hnodup.1]
      rfl
    · rw [if_neg h, beq_false_of_ne (Ne.symm h), ih hnodup.2]

/-- What is kept for some keys is what each of them has. -/
theorem lookup_filterMap (keys : List String) (value : String → Option Json) (key : String) :
    (keys.filterMap fun k => (value k).map fun j => (k, j)).lookup key =
      if key ∈ keys then value key else none := by
  induction keys with
  | nil => rfl
  | cons k keys ih =>
    cases hvalue : value k with
    | none =>
      rw [List.filterMap_cons_none (by rw [hvalue]; rfl), ih]
      by_cases h : key = k
      · subst h
        rw [if_pos List.mem_cons_self, hvalue, ite_self]
      · simp only [List.mem_cons, h, false_or]
    | some j =>
      rw [List.filterMap_cons_some (by rw [hvalue]; rfl), List.lookup_cons]
      by_cases h : key = k
      · subst h
        rw [beq_self_eq_true, if_pos List.mem_cons_self, hvalue]
      · rw [beq_false_of_ne h, ih]
        simp only [List.mem_cons, h, false_or]

/-- The known fields of an object have the values that were written. -/
theorem exists_knownFields?_named (hnodup : (fs.map Prod.fst).Nodup) (keys : List String) :
    ∃ known, knownFields? keys (named fs) = some known ∧
      keys.map (fun key => known.lookup key) = keys.map (fun key => fs.lookup key) := by
  have hsome : (named fs).all (·.1.isSome) = true := by
    simp [named]
  have hsingle : keys.all (fun k => (valuesOf k (named fs)).length ≤ 1) = true := by
    rw [List.all_eq_true]
    intro k _
    rw [valuesOf_named hnodup, decide_eq_true_eq, Option.length_toList]
    split <;> decide
  refine ⟨keys.filterMap fun k => (fs.lookup k).map fun j => (k, j), ?_, ?_⟩
  · rw [knownFields?, hsome, hsingle]
    simp only [valuesOf_named hnodup, Option.head?_toList, Bool.and_self, if_true]
  · refine List.map_congr_left ?_
    intro key hkey
    rw [lookup_filterMap, if_pos hkey]

/-- The fields of an object are read as they were written. -/
theorem exists_record?_object (hnodup : (fs.map Prod.fst).Nodup) (keys : List String) :
    ∃ known, record? keys (object fs) = some known ∧
      keys.map (fun key => known.lookup key) = keys.map (fun key => fs.lookup key) :=
  exists_knownFields?_named hnodup keys

/-- The known fields of an object are fields of the object. -/
theorem mem_of_mem_knownFields? {keys : List String} {fields : List (Option String × Json)}
    {known : List (String × Json)} (h : knownFields? keys fields = some known)
    {f : String × Json} (hf : f ∈ known) : ∃ g ∈ fields, g.2 = f.2 := by
  unfold knownFields? at h
  split at h
  case isTrue =>
    cases h
    obtain ⟨key, -, hkey⟩ := List.mem_filterMap.mp hf
    obtain ⟨j, hj, rfl⟩ := Option.map_eq_some_iff.mp hkey
    obtain ⟨g, hg, hvalue⟩ := List.mem_map.mp (List.mem_of_mem_head? hj)
    exact ⟨g, (List.mem_filter.mp hg).1, hvalue⟩
  case isFalse => cases h

/-! ## Fields that may be left out -/

variable {α : Type} {key : String} {write : α → Json} {read? : Json → Option α}

theorem lookup_present (key k : String) (write : α → Json) (o : Option α) :
    (present key write o).lookup k = if k = key then o.map write else none := by
  cases o with
  | none => simp [present]
  | some a =>
    rw [present, List.lookup_cons]
    by_cases h : k = key
    · rw [if_pos h, beq_iff_eq.mpr h, Option.map_some]
    · rw [if_neg h, beq_false_of_ne h, List.lookup_nil]

theorem mem_present {o : Option α} {f : String × Json} :
    f ∈ present key write o ↔ ∃ a, o = some a ∧ f = (key, write a) := by
  cases o with
  | none => simp [present]
  | some a => simp [present]

theorem keys_present_sublist (key : String) (write : α → Json) (o : Option α) :
    ((present key write o).map Prod.fst).Sublist [key] := by
  cases o with
  | none => exact List.nil_sublist _
  | some a => exact List.Sublist.refl _

/-- An optional field is read as it was written, if no value is written as null. -/
theorem optional?_of_lookup {fields : List (String × Json)} {o : Option α}
    (h : fields.lookup key = o.map write)
    (hread : ∀ a, o = some a → write a ≠ .null ∧ read? (write a) = some a) :
    field? (optional? read?) none key fields = some o := by
  cases o with
  | none => rw [field?, h, Option.map_none]
  | some a =>
    obtain ⟨hnull, ha⟩ := hread a rfl
    rw [field?, h, Option.map_some]
    show optional? read? (write a) = some (some a)
    rw [optional?, ha, Option.map_some]
    exact hnull

theorem field?_of_lookup {fields : List (String × Json)} {j : Json} (h : fields.lookup key = some j)
    (default : α) : field? read? default key fields = read? j := by
  rw [field?, h]

theorem required?_of_lookup {fields : List (String × Json)} {j : Json}
    (h : fields.lookup key = some j) : required? read? key fields = read? j := by
  rw [required?, h, Option.bind_some]

/-! ## Lists -/

/-- A list is read as it was written, if its elements are. -/
theorem list?_map {xs : List α} (h : ∀ a ∈ xs, read? (write a) = some a) :
    list? read? (.arr (xs.map write)) = some xs := by
  show (xs.map write).mapM read? = some xs
  induction xs with
  | nil => rfl
  | cons a xs ih =>
    have ha : read? (write a) = some a := h a List.mem_cons_self
    have hxs : (xs.map write).mapM read? = some xs := ih fun b hb => h b (List.mem_cons_of_mem _ hb)
    rw [List.map_cons, List.mapM_cons, ha, hxs]
    rfl

/-- Every element of a list was read from an element of the array. -/
theorem exists_of_mem_list? {j : Json} {xs : List α} (h : list? read? j = some xs) :
    ∃ elements, j = .arr elements ∧ ∀ a ∈ xs, ∃ x ∈ elements, read? x = some a := by
  cases j with
  | arr elements =>
    refine ⟨elements, rfl, ?_⟩
    change elements.mapM read? = some xs at h
    induction elements generalizing xs with
    | nil =>
      cases h
      intro a ha
      cases ha
    | cons x elements ih =>
      rw [List.mapM_cons] at h
      simp only [Option.bind_eq_bind, Option.bind_eq_some_iff, Option.pure_def,
        Option.some.injEq] at h
      obtain ⟨b, hb, ys, hys, rfl⟩ := h
      intro a ha
      rcases List.mem_cons.mp ha with rfl | ha
      · exact ⟨x, List.mem_cons_self, hb⟩
      · obtain ⟨y, hy, hread⟩ := ih hys a ha
        exact ⟨y, List.mem_cons_of_mem _ hy, hread⟩
  | _ => cases h

/-! ## Depth and meaning -/

theorem depth_object_le {n : Nat} (h : ∀ f ∈ fs, f.2.depth ≤ n) : (object fs).depth ≤ n + 1 := by
  have hfields : depthOfFields (named fs) ≤ n := by
    induction fs with
    | nil => exact Nat.zero_le n
    | cons f fs ih =>
      refine Nat.max_le.mpr ⟨h f List.mem_cons_self, ih ?_⟩
      intro g hg
      exact h g (List.mem_cons_of_mem _ hg)
  exact Nat.succ_le_succ hfields

theorem denotes_object (h : ∀ f ∈ fs, f.2.denotes = true) : (object fs).denotes = true := by
  show fieldsDenote (named fs) = true
  induction fs with
  | nil => rfl
  | cons f fs ih =>
    have hf : f.2.denotes = true := h f List.mem_cons_self
    have hfs : fieldsDenote (named fs) = true := ih fun g hg => h g (List.mem_cons_of_mem _ hg)
    show (Option.isSome (some f.1) && f.2.denotes && fieldsDenote (named fs)) = true
    rw [hf, hfs]
    rfl

end Newsfeed.Json
