import Newsfeed.Json.Reader
import Newsfeed.Proofs.JsonRecords

/-! # Finite numbers in JSON

JSON can write neither a NaN nor an infinity. A text therefore gives a value whose numbers are all
finite, and whatever is read from such a value is finite as well: reading hands on the numbers of the
value and of nothing else.

* `HasFiniteNumbers`: every number in a value is finite, with `HasFiniteNumbers.object` and
  `HasFiniteNumbers.arr_map` for what is written from such parts;
* `hasFiniteNumbers_of_parse?`: the value of a text, by what one token keeps of the machine;
* `Ensures`: what a reader ensures for values with finite numbers, with one rule for each way to read
  a field.
-/

namespace Newsfeed

/-! ## Scores -/

namespace Score

theorem magnitude_negate (s : Score) : s.negate.magnitude = s.magnitude := by
  have hsign : signBit = 2 ^ 63 := rfl
  simp only [magnitude, negate, hsign, UInt64.toNat_xor, Nat.xor_mod_two_pow]
  simp

theorem isFinite_negate (s : Score) : s.negate.isFinite = s.isFinite := by
  rw [isFinite, magnitude_negate, isFinite]

/-- A decimal number is rounded to a finite score or refused. -/
theorem isFinite_of_ofDecimal? {negative : Bool} {digits : Nat} {exponent : Int} {s : Score}
    (h : ofDecimal? negative digits exponent = some s) : s.isFinite = true := by
  -- the sign does not matter
  have hsign : ∀ t : Score, t.isFinite = true →
      (if negative then t.negate else t).isFinite = true := by
    intro t ht
    split
    · rwa [isFinite_negate]
    · exact ht
  unfold ofDecimal? at h
  simp only at h
  split at h
  case isTrue =>
    cases h
    exact hsign zero (by decide)
  case isFalse =>
    split at h
    case isTrue => cases h
    case isFalse =>
      split at h
      case isTrue hfinite =>
        cases h
        exact hsign _ hfinite
      case isFalse => cases h

theorem isFinite_ofInt (n : Int) : (ofInt n).isFinite = true := by
  unfold ofInt
  cases h : ofDecimal? (n < 0) n.natAbs 0 with
  | none => decide
  | some s => exact isFinite_of_ofDecimal? h

end Score

namespace Json

/-! ## Values -/

/-- Every number in a value is finite. -/
inductive HasFiniteNumbers : Json → Prop
  | null : HasFiniteNumbers .null
  | bool (b : Bool) : HasFiniteNumbers (.bool b)
  | int (n : Int) : HasFiniteNumbers (.int n)
  | real {x : Option Score} (h : ∀ s, x = some s → s.isFinite = true) : HasFiniteNumbers (.real x)
  | str (s : Option String) : HasFiniteNumbers (.str s)
  | arr {elements : List Json} (h : ∀ j ∈ elements, HasFiniteNumbers j) :
    HasFiniteNumbers (.arr elements)
  | obj {fields : List (Option String × Json)} (h : ∀ f ∈ fields, HasFiniteNumbers f.2) :
    HasFiniteNumbers (.obj fields)

/-- The number that a value is read as is finite. -/
theorem HasFiniteNumbers.isFinite_of_score? {j : Json} (hj : j.HasFiniteNumbers) {s : Score}
    (h : score? j = some s) : s.isFinite = true := by
  cases hj with
  | int n =>
    cases h
    exact Score.isFinite_ofInt n
  | real hx => exact hx s h
  | _ => cases h

/-- The fields of a record have finite numbers if the record has. -/
theorem HasFiniteNumbers.record? {j : Json} (hj : j.HasFiniteNumbers) {keys : List String}
    {fields : List (String × Json)} (h : j.record? keys = some fields) :
    ∀ f ∈ fields, f.2.HasFiniteNumbers := by
  intro f hf
  cases hj with
  | obj hfields =>
    obtain ⟨g, hg, hvalue⟩ := mem_of_mem_knownFields? h hf
    rw [← hvalue]
    exact hfields g hg
  | arr helements =>
    simp only [Json.record?] at h
    split at h
    · cases h
      exact helements _ (List.of_mem_zip hf).2
    · cases h
  | _ => cases h

/-! ## Writing -/

section Writing

variable {α : Type} {write : α → Json} (hwrite : ∀ a, (write a).HasFiniteNumbers)

theorem HasFiniteNumbers.object {fs : List (String × Json)} (h : ∀ f ∈ fs, f.2.HasFiniteNumbers) :
    (Json.object fs).HasFiniteNumbers := by
  refine .obj ?_
  intro f hf
  obtain ⟨g, hg, rfl⟩ := List.mem_map.mp hf
  exact h g hg

include hwrite

theorem HasFiniteNumbers.arr_map (xs : List α) : (Json.arr (xs.map write)).HasFiniteNumbers := by
  refine .arr ?_
  intro j hj
  obtain ⟨a, -, rfl⟩ := List.mem_map.mp hj
  exact hwrite a

theorem hasFiniteNumbers_of_mem_present {key : String} {o : Option α} :
    ∀ f ∈ present key write o, f.2.HasFiniteNumbers := by
  intro f hf
  obtain ⟨a, -, rfl⟩ := mem_present.mp hf
  exact hwrite a

end Writing

/-! ## Reading -/

/-- What is read from a value with finite numbers has the property. -/
def Ensures {α : Type} (read? : Json → Option α) (P : α → Prop) : Prop :=
  ∀ j a, j.HasFiniteNumbers → read? j = some a → P a

namespace Ensures

variable {α : Type} {read? : Json → Option α} {P : α → Prop}

theorem score? : Ensures Json.score? fun s => s.isFinite = true :=
  fun _ _ hj h => hj.isFinite_of_score? h

theorem list? (h : Ensures read? P) : Ensures (Json.list? read?) fun xs => ∀ a ∈ xs, P a := by
  intro j xs hj hread a ha
  obtain ⟨elements, rfl, helements⟩ := exists_of_mem_list? hread
  obtain ⟨x, hx, hxa⟩ := helements a ha
  cases hj with
  | arr hfinite => exact h x a (hfinite x hx) hxa

theorem optional? (h : Ensures read? P) :
    Ensures (Json.optional? read?) fun o => ∀ a, o = some a → P a := by
  rintro j o hj hread a rfl
  unfold Json.optional? at hread
  split at hread
  · cases hread
  · obtain ⟨b, hb, hba⟩ := Option.map_eq_some_iff.mp hread
    cases hba
    exact h j a hj hb

variable {fields : List (String × Json)} (hfields : ∀ f ∈ fields, f.2.HasFiniteNumbers)
  {key : String} {a : α}

include hfields

theorem hasFiniteNumbers_of_lookup {j : Json} (h : fields.lookup key = some j) :
    j.HasFiniteNumbers := by
  obtain ⟨before, after, rfl, -⟩ := List.lookup_eq_some_iff.mp h
  exact hfields (key, j) (List.mem_append_right _ List.mem_cons_self)

theorem required? (h : Ensures read? P) (hread : Json.required? read? key fields = some a) :
    P a := by
  obtain ⟨j, hj, hja⟩ := Option.bind_eq_some_iff.mp hread
  exact h j a (hasFiniteNumbers_of_lookup hfields hj) hja

theorem field? (h : Ensures read? P) {default : α} (hdefault : P default)
    (hread : Json.field? read? default key fields = some a) : P a := by
  unfold Json.field? at hread
  split at hread
  case h_1 j hj => exact h j a (hasFiniteNumbers_of_lookup hfields hj) hread
  case h_2 =>
    cases hread
    exact hdefault

end Ensures

/-! ## Texts -/

theorem hasFiniteNumbers_numberValue (negative : Bool) (whole frac : List Char)
    (exponent : Option Int) : (numberValue negative whole frac exponent).HasFiniteNumbers := by
  unfold numberValue
  extract_lets n z isInteger
  split
  · exact .int _
  · exact .real fun _ hs => Score.isFinite_of_ofDecimal? hs

theorem hasFiniteNumbers_of_unsigned? {negative : Bool} {s : List Char} {r : Json × List Char}
    (h : unsigned? negative s = some r) : r.1.HasFiniteNumbers := by
  simp only [unsigned?, Option.bind_eq_bind, Option.bind_eq_some_iff, Option.pure_def,
    Option.some.injEq] at h
  obtain ⟨whole, -, frac, -, exponent, -, rfl⟩ := h
  exact hasFiniteNumbers_numberValue _ _ _ _

/-- The value that a token carries has finite numbers. -/
def Token.HasFiniteNumbers (t : Token) : Prop := ∀ j, t = .value j → j.HasFiniteNumbers

theorem Token.hasFiniteNumbers_of_word? {word : String} {j : Json} (hj : j.HasFiniteNumbers)
    {s : List Char} {r : Token × List Char} (h : word? word j s = some r) :
    r.1.HasFiniteNumbers := by
  unfold word? at h
  split at h
  · cases h
    rintro _ ⟨⟩
    exact hj
  · cases h

/-- A token carries a number that it has read, or nothing that could be one. -/
theorem Token.hasFiniteNumbers_of_read? {s : List Char} {r : Token × List Char}
    (h : Token.read? s = some r) : r.1.HasFiniteNumbers := by
  have hnumber : ∀ {negative : Bool} {s : List Char},
      (unsigned? negative s).map (fun r => (Token.value r.1, r.2)) = some r →
        r.1.HasFiniteNumbers := by
    intro negative s h
    obtain ⟨v, hv, rfl⟩ := Option.map_eq_some_iff.mp h
    rintro _ ⟨⟩
    exact hasFiniteNumbers_of_unsigned? hv
  unfold Token.read? at h
  split at h
  case h_7 =>
    obtain ⟨v, hv, rfl⟩ := Option.map_eq_some_iff.mp h
    simp only [string?, Option.bind_eq_bind, Option.bind_eq_some_iff, Option.pure_def,
      Option.some.injEq] at hv
    obtain ⟨pieces, -, rfl⟩ := hv
    rintro _ ⟨⟩
    exact .str _
  case h_8 => exact hasFiniteNumbers_of_word? (.bool true) h
  case h_9 => exact hasFiniteNumbers_of_word? (.bool false) h
  case h_10 => exact hasFiniteNumbers_of_word? .null h
  case h_11 => exact hnumber h
  case h_12 => exact hnumber h
  -- brackets, colons and commas carry no value
  all_goals
    cases h
    rintro _ ⟨⟩

theorem forall_hasFiniteNumbers_of_tokensFrom? {fuel : Nat} {s : List Char} {ts : List Token}
    (h : tokensFrom? fuel s = some ts) : ∀ t ∈ ts, t.HasFiniteNumbers := by
  induction fuel generalizing s ts with
  | zero =>
    unfold tokensFrom? at h
    split at h
    · cases h
      intro t ht
      cases ht
    · cases h
  | succ fuel ih =>
    unfold tokensFrom? at h
    split at h
    · cases h
      intro t ht
      cases ht
    · simp only [Option.bind_eq_bind, Option.bind_eq_some_iff, Option.pure_def,
        Option.some.injEq] at h
      obtain ⟨r, hr, rest, hrest, rfl⟩ := h
      intro t ht
      rcases List.mem_cons.mp ht with rfl | ht
      · exact Token.hasFiniteNumbers_of_read? hr
      · exact ih hrest t ht

/-- Everything that an open frame holds so far has finite numbers. -/
def Frame.HasFiniteNumbers : Frame → Prop
  | .arr done => ∀ j ∈ done, j.HasFiniteNumbers
  | .obj done _ => ∀ f ∈ done, f.2.HasFiniteNumbers

namespace Machine

/-- Everything that the machine holds has finite numbers. -/
structure HasFiniteNumbers (m : Machine) : Prop where
  frames : ∀ f ∈ m.frames, f.HasFiniteNumbers
  result : ∀ j, m.result = some j → j.HasFiniteNumbers

variable {m m' : Machine}

/-- The innermost frame, and the machine without it. -/
theorem HasFiniteNumbers.pop (hm : m.HasFiniteNumbers) {f : Frame} {rest : List Frame}
    (h : m.frames = f :: rest) :
    f.HasFiniteNumbers ∧ HasFiniteNumbers { m with frames := rest } := by
  have hframes := hm.frames
  rw [h, List.forall_mem_cons] at hframes
  exact ⟨hframes.1, hframes.2, hm.result⟩

theorem HasFiniteNumbers.push (hm : m.HasFiniteNumbers) {f : Frame} (hf : f.HasFiniteNumbers)
    (e : Expected) : HasFiniteNumbers { m with frames := f :: m.frames, expected := e } :=
  ⟨List.forall_mem_cons.mpr ⟨hf, hm.frames⟩, hm.result⟩

theorem HasFiniteNumbers.put (hm : m.HasFiniteNumbers) {j : Json} (hj : j.HasFiniteNumbers)
    (h : m.put j = some m') : m'.HasFiniteNumbers := by
  unfold Machine.put at h
  split at h
  case h_1 =>
    cases h
    constructor
    · intro f hf
      cases hf
    · rintro _ ⟨⟩
      exact hj
  case h_2 done rest hopen =>
    cases h
    obtain ⟨hdone, hrest⟩ := hm.pop hopen
    have hframe : (Frame.arr (j :: done)).HasFiniteNumbers :=
      List.forall_mem_cons.mpr ⟨hj, hdone⟩
    exact hrest.push hframe _
  case h_3 done k rest hopen =>
    cases h
    obtain ⟨hdone, hrest⟩ := hm.pop hopen
    have hframe : (Frame.obj ((k, j) :: done) none).HasFiniteNumbers :=
      List.forall_mem_cons.mpr ⟨hj, hdone⟩
    exact hrest.push hframe _
  case h_4 => cases h

theorem HasFiniteNumbers.closeArray (hm : m.HasFiniteNumbers) (h : m.closeArray = some m') :
    m'.HasFiniteNumbers := by
  unfold Machine.closeArray at h
  split at h
  case h_1 done rest hopen =>
    obtain ⟨hdone, hrest⟩ := hm.pop hopen
    exact hrest.put (.arr fun j hj => hdone j (List.mem_reverse.mp hj)) h
  case h_2 => cases h

theorem HasFiniteNumbers.closeObject (hm : m.HasFiniteNumbers) (h : m.closeObject = some m') :
    m'.HasFiniteNumbers := by
  unfold Machine.closeObject at h
  split at h
  case h_1 done rest hopen =>
    obtain ⟨hdone, hrest⟩ := hm.pop hopen
    exact hrest.put (.obj fun f hf => hdone f (List.mem_reverse.mp hf)) h
  case h_2 => cases h

theorem HasFiniteNumbers.setKey (hm : m.HasFiniteNumbers) {k : Option String}
    (h : m.setKey k = some m') : m'.HasFiniteNumbers := by
  unfold Machine.setKey at h
  split at h
  case h_1 done key rest hopen =>
    cases h
    obtain ⟨hdone, hrest⟩ := hm.pop hopen
    have hframe : (Frame.obj done (some k)).HasFiniteNumbers := hdone
    exact hrest.push hframe _
  case h_2 => cases h

theorem HasFiniteNumbers.next (hm : m.HasFiniteNumbers) (h : m.next = some m') :
    m'.HasFiniteNumbers := by
  unfold Machine.next at h
  split at h
  case h_3 => cases h
  all_goals
    cases h
    exact ⟨hm.frames, hm.result⟩

theorem HasFiniteNumbers.takeValue (hm : m.HasFiniteNumbers) {t : Token}
    (ht : t.HasFiniteNumbers) (h : m.takeValue t = some m') : m'.HasFiniteNumbers := by
  cases t with
  | value j => exact hm.put (ht j rfl) h
  | openArray =>
    cases h
    have hframe : (Frame.arr []).HasFiniteNumbers := fun j hj => absurd hj List.not_mem_nil
    exact hm.push hframe _
  | openObject =>
    cases h
    have hframe : (Frame.obj [] none).HasFiniteNumbers := fun f hf => absurd hf List.not_mem_nil
    exact hm.push hframe _
  | _ => cases h

/-- One token keeps the numbers of the machine finite. -/
theorem HasFiniteNumbers.step? (hm : m.HasFiniteNumbers) {t : Token} (ht : t.HasFiniteNumbers)
    (h : m.step? t = some m') : m'.HasFiniteNumbers := by
  unfold Machine.step? at h
  split at h
  case h_1 => exact hm.closeArray h
  case h_2 => exact hm.takeValue ht h
  case h_3 => exact hm.takeValue ht h
  case h_4 => exact hm.closeObject h
  case h_5 => exact hm.setKey h
  case h_6 => exact hm.setKey h
  case h_7 =>
    cases h
    exact ⟨hm.frames, hm.result⟩
  case h_8 => exact hm.next h
  case h_9 => exact hm.closeArray h
  case h_10 => exact hm.closeObject h
  case h_11 => cases h

/-- Any number of tokens do. -/
theorem HasFiniteNumbers.run (hm : m.HasFiniteNumbers) {ts : List Token}
    (hts : ∀ t ∈ ts, t.HasFiniteNumbers) (h : ts.foldlM Machine.step? m = some m') :
    m'.HasFiniteNumbers := by
  induction ts generalizing m with
  | nil =>
    cases h
    exact hm
  | cons t ts ih =>
    rw [List.forall_mem_cons] at hts
    rw [List.foldlM_cons] at h
    obtain ⟨next, hnext, hrest⟩ := Option.bind_eq_some_iff.mp h
    exact ih (hm.step? hts.1 hnext) hts.2 hrest

end Machine

/-- The value of a text has finite numbers. -/
theorem hasFiniteNumbers_of_parse? {text : String} {j : Json} (h : parse? text = some j) :
    j.HasFiniteNumbers := by
  simp only [parse?, Option.bind_eq_bind, Option.bind_eq_some_iff] at h
  obtain ⟨ts, hts, m, hm, hresult⟩ := h
  have hstart : Machine.HasFiniteNumbers {} := by
    constructor
    · intro f hf
      cases hf
    · intro j hj
      cases hj
  have hrun := hstart.run (forall_hasFiniteNumbers_of_tokensFrom? hts) hm
  exact hrun.result j hresult

end Json

end Newsfeed
