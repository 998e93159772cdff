import Mathlib.Logic.Function.Iterate
import Mathlib.Tactic.Set
import Newsfeed.Proofs.PublishTimes

/-! # Display fields of an item that has them

Filling in the display fields once more appends the zone suffix once more and reads the publish time
with the suffixes that it has by then. All other fields stay as they are from the first time on.
Neither layout of a publish time ends in a letter other than that for UTC, so a text that ends in a
zone name has no instant.

* `Reader.EndsIn`: how a text ends that a reader takes whole, with `EndsIn.bind`;
* `readPublishTime?_eq_none`: no publish time ends in another letter;
* `Item.normalize_eq`: the display fields of an item in one piece;
* `normalize_repeated`: the fields of an item after any number of fillings.
-/

namespace Newsfeed

/-! ## How accepted texts end -/

namespace Reader

variable {α β : Type}

/-- What the reader leaves is an end of the text. -/
def LeavesSuffix (r : Reader α) : Prop :=
  ∀ ⦃s : List Char⦄ ⦃a : α⦄ ⦃rest : List Char⦄, r s = some (a, rest) → rest <:+ s

/-- A text that the reader takes whole ends in a character that passes the test. -/
def EndsIn (test : Char → Bool) (r : Reader α) : Prop :=
  ∀ ⦃s : List Char⦄ ⦃a : α⦄, r s = some (a, []) → ∃ c, s.getLast? = some c ∧ test c = true

/-- A reader that goes on has a first part, and a rest that it goes on with. -/
theorem exists_of_bind {r : Reader α} {f : α → Reader β} {s rest : List Char} {b : β}
    (h : (r >>= f) s = some (b, rest)) :
    ∃ a mid, r s = some (a, mid) ∧ f a mid = some (b, rest) := by
  change (r s).bind (fun p => f p.1 p.2) = some (b, rest) at h
  obtain ⟨⟨a, mid⟩, hr, hf⟩ := Option.bind_eq_some_iff.mp h
  exact ⟨a, mid, hr, hf⟩

theorem LeavesSuffix.bind {r : Reader α} {f : α → Reader β} (hr : LeavesSuffix r)
    (hf : ∀ a, LeavesSuffix (f a)) : LeavesSuffix (r >>= f) := by
  intro s b rest h
  obtain ⟨a, mid, hfirst, hsecond⟩ := exists_of_bind h
  exact (hf a hsecond).trans (hr hfirst)

theorem leavesSuffix_pure (a : α) : LeavesSuffix (pure a) := by
  intro s b rest h
  cases h
  exact List.suffix_rfl

theorem leavesSuffix_skip (test : Char → Bool) : LeavesSuffix (skip test) := by
  intro s b rest h
  cases h
  exact List.dropWhile_suffix _

theorem leavesSuffix_peek : LeavesSuffix peek := by
  intro s b rest h
  cases h
  exact List.suffix_rfl

theorem leavesSuffix_char (c : Char) : LeavesSuffix (char c) := by
  intro s b rest h
  unfold char at h
  split at h
  · split at h
    · cases h
      exact List.suffix_cons _ _
    · cases h
  · cases h

theorem leavesSuffix_oneOf (cs : List Char) : LeavesSuffix (oneOf cs) := by
  intro s b rest h
  unfold oneOf satisfying at h
  split at h
  · split at h
    · cases h
      exact List.suffix_cons _ _
    · cases h
  · cases h

theorem leavesSuffix_digitRun (least most : Nat) : LeavesSuffix (digitRun least most) := by
  intro s b rest h
  simp only [digitRun] at h
  split at h
  · cases h
  · cases h
    exact List.drop_suffix _ _

theorem leavesSuffix_digits (least most : Nat) : LeavesSuffix (digits least most) := by
  rw [digits, map_eq_pure_bind]
  exact (leavesSuffix_digitRun least most).bind fun _ => leavesSuffix_pure _

theorem leavesSuffix_anyDigits : LeavesSuffix anyDigits := by
  intro s b rest h
  simp only [anyDigits] at h
  split at h
  · cases h
  · cases h
    exact List.drop_suffix _ _

theorem leavesSuffix_field : LeavesSuffix field :=
  (leavesSuffix_skip _).bind fun _ => leavesSuffix_digits 1 2

theorem leavesSuffix_year : LeavesSuffix year := by
  refine (leavesSuffix_skip _).bind fun _ => leavesSuffix_peek.bind fun sign => ?_
  split
  · exact (leavesSuffix_char _).bind fun _ => leavesSuffix_anyDigits.bind fun _ => leavesSuffix_pure _
  · exact (leavesSuffix_char _).bind fun _ => leavesSuffix_anyDigits.bind fun _ => leavesSuffix_pure _
  · exact (leavesSuffix_digits 1 4).bind fun _ => leavesSuffix_pure _

theorem leavesSuffix_optionalFraction : LeavesSuffix optionalFraction := by
  refine leavesSuffix_peek.bind fun point => ?_
  split
  · exact (leavesSuffix_char _).bind fun _ => (leavesSuffix_digitRun 1 9).bind fun _ =>
      (leavesSuffix_skip _).bind fun _ => leavesSuffix_pure _
  · exact leavesSuffix_pure _

variable {test : Char → Bool}

/-- The end of a text is the end of what the first part has left. -/
theorem EndsIn.bind {r : Reader α} {f : α → Reader β} (hr : LeavesSuffix r)
    (hf : ∀ a, EndsIn test (f a)) : EndsIn test (r >>= f) := by
  intro s b h
  obtain ⟨a, mid, hfirst, hsecond⟩ := exists_of_bind h
  obtain ⟨c, hlast, hc⟩ := hf a hsecond
  obtain ⟨front, rfl⟩ := hr hfirst
  exact ⟨c, by rw [List.getLast?_append, hlast, Option.some_or], hc⟩

/-- A reader that goes on without taking anything more has taken the whole text before. -/
theorem EndsIn.bind_of_takes_nothing {r : Reader α} {f : α → Reader β} (hr : EndsIn test r)
    (hf : ∀ a s b rest, f a s = some (b, rest) → rest = s) : EndsIn test (r >>= f) := by
  intro s b h
  obtain ⟨a, mid, hfirst, hsecond⟩ := exists_of_bind h
  rw [← hf a mid b [] hsecond] at hfirst
  exact hr hfirst

theorem EndsIn.bind_pure {r : Reader α} {f : α → β} (hr : EndsIn test r) :
    EndsIn test (r >>= fun a => pure (f a)) := by
  refine hr.bind_of_takes_nothing ?_
  intro a s b rest h
  cases h
  rfl

theorem EndsIn.orElse {r r' : Reader α} (hr : EndsIn test r) (hr' : EndsIn test r') :
    EndsIn test (orElse r r') := by
  intro s a h
  unfold Reader.orElse at h
  split at h
  · next hfirst => exact hr (hfirst.trans h)
  · exact hr' h

theorem endsIn_oneOf {cs : List Char} (hcs : ∀ c ∈ cs, test c = true) : EndsIn test (oneOf cs) := by
  intro s a h
  unfold oneOf satisfying at h
  split at h
  case h_1 =>
    split at h
    case isTrue hc =>
      cases h
      exact ⟨a, rfl, hcs a (List.contains_iff_mem.mp hc)⟩
    case isFalse => cases h
  case h_2 => cases h

/-- A number that ends a text leaves a digit at its end. -/
theorem endsIn_digitRun {least most : Nat} (hleast : 0 < least)
    (htest : ∀ c, c.isDigit = true → test c = true) : EndsIn test (digitRun least most) := by
  intro s a h
  simp only [digitRun] at h
  split at h
  case isTrue => cases h
  case isFalse hlength =>
    generalize hds : (s.take most).takeWhile Char.isDigit = ds at h hlength
    obtain ⟨-, hdrop⟩ := Prod.mk.inj (Option.some.inj h)
    have hprefix : ds <+: s := by
      rw [← hds]
      exact (List.takeWhile_prefix _).trans (List.take_prefix _ _)
    -- nothing is left, so the run of digits is the whole text
    have hwhole : ds = s := hprefix.eq_of_length_le (List.drop_eq_nil_iff.mp hdrop)
    have hne : ds ≠ [] := List.ne_nil_of_length_pos (by omega)
    refine ⟨ds.getLast hne, by rw [← hwhole, List.getLast?_eq_some_getLast], htest _ ?_⟩
    have hmem : ds.getLast hne ∈ (s.take most).takeWhile Char.isDigit := by
      rw [hds]
      exact List.getLast_mem hne
    exact List.all_eq_true.mp List.all_takeWhile _ hmem

theorem endsIn_digits {least most : Nat} (hleast : 0 < least)
    (htest : ∀ c, c.isDigit = true → test c = true) : EndsIn test (digits least most) := by
  rw [digits, map_eq_pure_bind]
  exact (endsIn_digitRun hleast htest).bind_pure

theorem endsIn_field (htest : ∀ c, c.isDigit = true → test c = true) : EndsIn test field :=
  EndsIn.bind (leavesSuffix_skip _) fun _ => endsIn_digits (by decide) htest

end Reader

/-- Whether a character may end a publish time: a digit, or the letter for UTC. -/
def endsPublishTime (c : Char) : Bool := c.isDigit || c == 'Z' || c == 'z'

theorem endsPublishTime_of_isDigit (c : Char) (hc : c.isDigit = true) :
    endsPublishTime c = true := by
  simp [endsPublishTime, hc]

open Reader

theorem RawLayout.endsIn_fields : EndsIn endsPublishTime RawLayout.fields := by
  refine EndsIn.bind leavesSuffix_year fun _ => EndsIn.bind (leavesSuffix_char _) fun _ =>
    EndsIn.bind leavesSuffix_field fun _ => EndsIn.bind (leavesSuffix_char _) fun _ =>
    EndsIn.bind leavesSuffix_field fun _ => EndsIn.bind leavesSuffix_field fun _ =>
    EndsIn.bind (leavesSuffix_char _) fun _ => EndsIn.bind leavesSuffix_field fun _ =>
    EndsIn.bind (leavesSuffix_char _) fun _ => ?_
  exact (endsIn_field endsPublishTime_of_isDigit).bind_pure

theorem Rfc3339.endsIn_fields : EndsIn endsPublishTime Rfc3339.fields := by
  have hzulu : EndsIn endsPublishTime zulu := (endsIn_oneOf (by simp [endsPublishTime])).bind_pure
  have hoffset : EndsIn endsPublishTime (offset (char ':')) := by
    refine EndsIn.bind (leavesSuffix_oneOf _) fun _ => EndsIn.bind (leavesSuffix_digits 2 2) fun _ =>
      EndsIn.bind (leavesSuffix_char _) fun _ => ?_
    refine (endsIn_digits (by decide) endsPublishTime_of_isDigit).bind_of_takes_nothing ?_
    intro minutes s total rest h
    obtain ⟨_, mid, hcheck, hpure⟩ := exists_of_bind h
    cases hpure
    unfold check at hcheck
    split at hcheck
    · cases hcheck
      rfl
    · cases hcheck
  refine EndsIn.bind (leavesSuffix_digits 4 4) fun _ => EndsIn.bind (leavesSuffix_char _) fun _ =>
    EndsIn.bind (leavesSuffix_digits 2 2) fun _ => EndsIn.bind (leavesSuffix_char _) fun _ =>
    EndsIn.bind (leavesSuffix_digits 2 2) fun _ => EndsIn.bind (leavesSuffix_oneOf _) fun _ =>
    EndsIn.bind (leavesSuffix_digits 2 2) fun _ => EndsIn.bind (leavesSuffix_char _) fun _ =>
    EndsIn.bind (leavesSuffix_digits 2 2) fun _ => EndsIn.bind (leavesSuffix_char _) fun _ =>
    EndsIn.bind (leavesSuffix_digits 2 2) fun _ => EndsIn.bind leavesSuffix_optionalFraction fun _ => ?_
  exact (hzulu.orElse hoffset).bind_pure

/-- A reader does not take a whole text that ends otherwise. -/
theorem Reader.EndsIn.all_eq_none {α : Type} {test : Char → Bool} {r : Reader α} (h : EndsIn test r)
    {s : List Char} (hs : ∀ c, s.getLast? = some c → test c = false) : Reader.all r s = none := by
  unfold Reader.all
  split
  case h_1 a hread =>
    obtain ⟨c, hlast, hc⟩ := h hread
    rw [hs c hlast] at hc
    cases hc
  case h_2 => rfl

/-- A text has no instant unless a digit or the letter for UTC stands before the blanks at its
end. -/
theorem readPublishTime?_eq_none {text : String}
    (h : ∀ c, (Text.trim text.toList).getLast? = some c → endsPublishTime c = false) :
    readPublishTime? text = none := by
  rw [readPublishTime?_eq, RawLayout.read?, Rfc3339.read?, RawLayout.endsIn_fields.all_eq_none h,
    Rfc3339.endsIn_fields.all_eq_none h]
  rfl

theorem readPublishTime?_of_blank {text : String} (h : Config.isBlankText text = true) :
    readPublishTime? text = none := by
  refine readPublishTime?_eq_none fun c hc => ?_
  rw [Text.trim_of_all_blank h] at hc
  cases hc

/-- Trimming leaves the last character of a text, if that is no blank. -/
theorem Text.getLast?_trim {s : List Char} {c : Char} (hlast : s.getLast? = some c)
    (hc : isBlank c = false) : (trim s).getLast? = some c := by
  have hmem : c ∈ s := List.mem_of_getLast? hlast
  -- the text is not blank, so something of it is left, and that ends as the text does
  have hne : trimStart s ≠ [] := by
    intro hnil
    have hblank := List.all_eq_true.mp ((trimStart_eq_nil_iff s).mp hnil) c hmem
    rw [hc] at hblank
    cases hblank
  have hstart : (trimStart s).getLast? = some c := by
    obtain ⟨front, hfront⟩ := List.dropWhile_suffix (l := s) isBlank
    obtain ⟨d, hd⟩ := Option.isSome_iff_exists.mp (List.getLast?_isSome.mpr hne)
    rw [← hfront, List.getLast?_append] at hlast
    change (trimStart s).getLast?.or _ = _ at hlast
    rwa [hd, Option.some_or, ← hd] at hlast
  have htrim : trimEnd (trimStart s ++ []) = trimStart s := by
    refine trimEnd_append_blank ?_ rfl
    intro d hd
    rw [hstart, Option.some.injEq] at hd
    rwa [← hd]
  rw [List.append_nil] at htrim
  rw [trim, htrim, hstart]

/-- No text that ends in the name of the zone has an instant. -/
theorem readPublishTime?_append_utc (text : String) : readPublishTime? (text ++ " UTC") = none := by
  have hlast : (text ++ " UTC").toList.getLast? = some 'C' := by
    rw [String.toList_append, List.getLast?_append]
    rfl
  refine readPublishTime?_eq_none fun c hc => ?_
  rw [Text.getLast?_trim hlast (by decide), Option.some.injEq] at hc
  rw [← hc]
  decide

/-! ## Filling in the display fields -/

namespace Item

variable (c : Config) (now : Instant) (it : Item)

/-- The publish time that is shown: with the zone suffix, unless it is blank. -/
def zonedPublishTime (suffix : String) (it : Item) : String :=
  if Config.isBlankText it.publishTime then it.publishTime else it.publishTime ++ suffix

/-- The display fields come from the item as it was; a blank publish time has no instant. -/
theorem normalize_eq :
    it.normalize c now =
      { it with
        image := it.paddedImage
        urlHash := it.key
        publishTime := it.zonedPublishTime c.timeSuffix
        publishedAt := readPublishTime? it.publishTime
        relativeTime := (readPublishTime? it.publishTime).map (relativeLabel · now) } := by
  unfold normalize zonedPublishTime
  split
  case isTrue hblank => rw [readPublishTime?_of_blank hblank, Option.map_none]
  case isFalse => rfl

/-- The item is another one but for its display fields. -/
def DiffersInDisplay (shown it : Item) : Prop :=
  shown = { it with
    image := shown.image
    urlHash := shown.urlHash
    publishTime := shown.publishTime
    publishedAt := shown.publishedAt
    relativeTime := shown.relativeTime }

theorem DiffersInDisplay.trans {first second third : Item} (h : first.DiffersInDisplay second)
    (h' : second.DiffersInDisplay third) : first.DiffersInDisplay third := by
  unfold DiffersInDisplay at *
  rw [h, h']

theorem normalize_differsInDisplay : (it.normalize c now).DiffersInDisplay it := by
  rw [normalize_eq]
  rfl

theorem urlDigest_ne_empty (url : String) : urlDigest url ≠ "" := by
  intro hempty
  have hlength := Sha256.length_hex url
  rw [show Sha256.hex url = "" from hempty] at hlength
  cases hlength

theorem key_of_urlHash {it : Item} (h : it.urlHash ≠ "") : it.key = it.urlHash := by
  simp [key, h]

theorem key_of_url {it : Item} (h : it.urlHash = "") (hurl : it.url ≠ "") :
    it.key = urlDigest it.url := by
  simp [key, h, hurl]

theorem key_eq_empty_iff : it.key = "" ↔ it.url = "" ∧ it.urlHash = "" := by
  by_cases hhash : it.urlHash = ""
  · by_cases hurl : it.url = ""
    · simp [key, hhash, hurl]
    · simp [key_of_url hhash hurl, hurl, urlDigest_ne_empty]
  · simp [key_of_urlHash hhash, hhash]

/-- The key of an item is kept. -/
theorem key_normalize : (it.normalize c now).key = it.key := by
  rw [normalize_eq]
  by_cases hkey : it.key = ""
  · refine Eq.trans ?_ hkey.symm
    exact (key_eq_empty_iff _).mpr ⟨((key_eq_empty_iff it).mp hkey).1, hkey⟩
  · exact key_of_urlHash hkey

/-! ## Filling them in again -/

theorem isBlankText_append (text suffix : String) :
    Config.isBlankText (text ++ suffix) = (Config.isBlankText text && Config.isBlankText suffix) := by
  simp [Config.isBlankText, Text.isAllBlank]

/-- So many copies of a text in a row. -/
def copies (n : Nat) (text : String) : String := String.join (List.replicate n text)

theorem copies_succ (n : Nat) (text : String) : copies (n + 1) text = copies n text ++ text := by
  simp [copies, List.replicate_succ']

variable {c now it}

theorem publishTime_iterate_of_blank (h : Config.isBlankText it.publishTime = true) (n : Nat) :
    ((normalize c now)^[n] it).publishTime = it.publishTime := by
  induction n with
  | zero => rfl
  | succ n ih =>
    rw [Function.iterate_succ_apply', normalize_eq]
    show zonedPublishTime _ _ = _
    rw [zonedPublishTime, ih, if_pos h]

/-- Each filling appends the zone suffix to a text that is not blank, and it never gets so. -/
theorem publishTime_iterate (h : Config.isBlankText it.publishTime = false) (n : Nat) :
    ((normalize c now)^[n] it).publishTime = it.publishTime ++ copies n c.timeSuffix := by
  induction n with
  | zero => simp [copies]
  | succ n ih =>
    rw [Function.iterate_succ_apply', normalize_eq]
    show zonedPublishTime _ _ = _
    have hblank : ¬ Config.isBlankText (it.publishTime ++ copies n c.timeSuffix) = true := by
      rw [isBlankText_append, h, Bool.false_and]
      decide
    rw [zonedPublishTime, ih, if_neg hblank, copies_succ, String.append_assoc]

theorem key_iterate (n : Nat) : ((normalize c now)^[n] it).key = it.key := by
  induction n with
  | zero => rfl
  | succ n ih => rw [Function.iterate_succ_apply', key_normalize, ih]

theorem iterate_differsInDisplay (n : Nat) : ((normalize c now)^[n] it).DiffersInDisplay it := by
  induction n with
  | zero => rfl
  | succ n ih =>
    rw [Function.iterate_succ_apply']
    exact (normalize_differsInDisplay c now _).trans ih

end Item

open Item

/-- Display fields that are filled in `n + 1` times: a blank publish time stays and has no instant,
and another one gets as many suffixes and is read with one of them less. The other display fields
come out as they did the first time, and no other field changes. With the zone name for a suffix there
is no instant from the second time on. -/
theorem normalize_repeated (c : Config) (now : Instant) (it : Item) (n : Nat) :
    let shown := (normalize c now)^[n + 1] it
    (Config.isBlankText it.publishTime = true →
      shown.publishTime = it.publishTime ∧ shown.publishedAt = none ∧ shown.relativeTime = none) ∧
    (Config.isBlankText it.publishTime = false →
      shown.publishTime = it.publishTime ++ copies (n + 1) c.timeSuffix ∧
      shown.publishedAt = readPublishTime? (it.publishTime ++ copies n c.timeSuffix)) ∧
    shown.relativeTime = shown.publishedAt.map (relativeLabel · now) ∧
    shown.image = it.paddedImage ∧
    (shown.urlHash = "" ↔ it.url = "" ∧ it.urlHash = "") ∧
    (it.urlHash ≠ "" → shown.urlHash = it.urlHash) ∧
    (it.urlHash = "" → it.url ≠ "" → shown.urlHash = urlDigest it.url) ∧
    shown.urlHash = (it.normalize c now).urlHash ∧
    shown.DiffersInDisplay it ∧
    (c.timeSuffix = " UTC" → 1 ≤ n → shown.publishedAt = none ∧ shown.relativeTime = none) := by
  intro shown
  -- everything but the publish time is told by the last filling and by what all of them keep
  set before := (normalize c now)^[n] it with hbefore
  have hlast : shown = before.normalize c now := Function.iterate_succ_apply' _ _ _
  have hat : shown.publishedAt = readPublishTime? before.publishTime := by rw [hlast, normalize_eq]
  have hlabel : shown.relativeTime = shown.publishedAt.map (relativeLabel · now) := by
    rw [hlast, normalize_eq]
  have hhash : shown.urlHash = it.key := by
    rw [hlast, normalize_eq]
    exact key_iterate n
  have himage : shown.image = it.paddedImage := by
    have hkept : before.DiffersInDisplay it := iterate_differsInDisplay n
    rw [hlast, normalize_eq, hkept]
  have hnone : shown.publishedAt = none → shown.publishedAt = none ∧ shown.relativeTime = none := by
    intro h
    rw [hlabel, h]
    exact ⟨rfl, rfl⟩
  refine ⟨?blank, ?zoned, hlabel, himage, ?empty, ?given, ?digest, ?kept,
    iterate_differsInDisplay (n + 1), ?utc⟩
  case blank =>
    intro h
    refine ⟨publishTime_iterate_of_blank h (n + 1), hnone ?_⟩
    rw [hat, hbefore, publishTime_iterate_of_blank h, readPublishTime?_of_blank h]
  case zoned =>
    intro h
    exact ⟨publishTime_iterate h (n + 1), by rw [hat, hbefore, publishTime_iterate h]⟩
  case empty =>
    rw [hhash]
    exact key_eq_empty_iff it
  case given =>
    intro h
    rw [hhash, key_of_urlHash h]
  case digest =>
    intro h hurl
    rw [hhash, key_of_url h hurl]
  case kept => rw [hhash, normalize_eq]
  case utc =>
    intro hsuffix hn
    apply hnone
    rw [hat, hbefore]
    cases hblank : Config.isBlankText it.publishTime with
    | true => rw [publishTime_iterate_of_blank hblank, readPublishTime?_of_blank hblank]
    | false =>
      -- the suffix of the filling before stands at the end of the text
      obtain ⟨k, rfl⟩ := Nat.exists_eq_add_of_le' hn
      rw [publishTime_iterate hblank, copies_succ, ← String.append_assoc, hsuffix,
        readPublishTime?_append_utc]

theorem normalize_repeated_sample :
    let it := { Item.article "" "https://a.example" with
      publishTime := "2020-04-20 10:00:00", urlHash := "0e57ac" }
    let blank := { it with publishTime := " \t" }
    let again := (normalize {} Instant.epoch)^[2]
    (again it).publishTime = "2020-04-20 10:00:00 UTC UTC" ∧ (again it).publishedAt = none ∧
      (again it).urlHash = "0e57ac" ∧ (again blank).publishTime = " \t" := by
  intro it blank again
  have hit : Config.isBlankText it.publishTime = false := by decide
  have hblank : Config.isBlankText blank.publishTime = true := by decide
  obtain ⟨-, hzoned, -, -, -, hgiven, -, -, -, hutc⟩ := normalize_repeated {} Instant.epoch it 1
  obtain ⟨hkept, -⟩ := normalize_repeated {} Instant.epoch blank 1
  refine ⟨?_, (hutc rfl (Nat.le_refl 1)).1, hgiven (by decide), (hkept hblank).1⟩
  exact (hzoned hit).1.trans (by decide)

end Newsfeed
