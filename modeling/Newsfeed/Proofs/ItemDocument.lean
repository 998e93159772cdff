import Newsfeed.Document.Item
import Newsfeed.Proofs.JsonNumbers
import Newsfeed.Proofs.StoredForm

/-! # Items and their documents

An item is read from its document as it was written: the kind from its own fields, the other parts from
the fields that all items have, and a part that was left out as one that is missing. Two things a
document cannot tell: a score that is not finite, and a leap second that does not end its minute. No
item that is read has either.

* `Item.ofFields?_eq_some_iff`: what the fields of an object say about the item that is read from it;
* `Item.FitsDocument`: what an item has to be so that a document can tell it;
* `Item.decodeWith?_encodeWith`: the item of its document;
* `Item.ensures_fitsDocument`: items that were read are such items.
-/

namespace Newsfeed

open Json

namespace ScoreForm

/-- A finite score stands as a number. -/
theorem write_number {s : Score} (h : s.isFinite = true) : number.write s = .real (some s) := by
  show (if s.isFinite then Json.real (some s) else .null) = _
  rw [if_pos h]

/-- A finite score is read as it was written. -/
theorem read?_write {s : Score} (h : s.isFinite = true) :
    number.write s ≠ .null ∧ number.read? (number.write s) = some s := by
  rw [write_number h]
  exact ⟨Json.noConfusion, rfl⟩

/-- A score that is not finite leaves no number. -/
theorem hasFiniteNumbers_write (s : Score) : (number.write s).HasFiniteNumbers := by
  show (if s.isFinite then Json.real (some s) else .null).HasFiniteNumbers
  split
  case isTrue h =>
    refine .real ?_
    rintro _ ⟨⟩
    exact h
  case isFalse => exact .null

end ScoreForm

namespace Instant

/-- What is read from the text of an instant is what clocks show of it. -/
theorem decode?_encode (t : Instant) : decode? t.encode = some t.carried := by
  simp only [decode?, encode, Json.text, Json.text?, Option.bind_eq_bind, Option.bind_some,
    String.toList_ofList, StoredForm.read?_writeStored]

/-- An instant that clocks show is read as it was written. -/
theorem decode?_encode_of_leapEndsMinute {t : Instant} (h : t.LeapEndsMinute) :
    decode? t.encode = some t := by
  rw [decode?_encode, carried_of_leapEndsMinute h]

theorem ensures_leapEndsMinute : Ensures decode? LeapEndsMinute := by
  intro j t _ h
  obtain ⟨s, -, hs⟩ := Option.bind_eq_some_iff.mp h
  exact StoredForm.leapEndsMinute_of_read? hs

end Instant

namespace Item

/-- The fields of the document of an item. -/
def fields (it : Item) : List (String × Json) :=
  it.kind.encode ++
    [("category", .text it.category), ("publish_time", .text it.publishTime),
     ("title", .text it.title), ("description", .text it.description), ("url", .text it.url),
     ("url_hash", .text it.urlHash), ("padded_img", .text it.paddedImage),
     ("img", .text it.image), ("publisher_id", .text it.publisherId),
     ("publisher_name", .text it.publisherName)] ++
    present "score" ScoreForm.number.write it.score ++
    present "points" ScoreForm.number.write it.points ++
    present "relative_time" Json.text it.relativeTime ++
    present "published_at" Instant.encode it.publishedAt

theorem encodeWith_eq (it : Item) : it.encodeWith .number = .object it.fields := rfl

/-- No key is repeated: the keys of the kind are none of those that all items have. -/
theorem nodup_keys (it : Item) : (it.fields.map Prod.fst).Nodup := by
  have hkind : (it.kind.encode.map Prod.fst).Sublist [Kind.nameKey, Kind.offersKey] := by
    cases it.kind with
    | deal c => exact List.Sublist.refl _
    | _ => exact List.sublist_append_left [Kind.nameKey] [Kind.offersKey]
  have hkeys : (it.fields.map Prod.fst).Sublist
      ([Kind.nameKey, Kind.offersKey] ++
        ["category", "publish_time", "title", "description", "url", "url_hash", "padded_img",
         "img", "publisher_id", "publisher_name"] ++
        ["score"] ++ ["points"] ++ ["relative_time"] ++ ["published_at"]) := by
    simp only [fields, List.map_append]
    exact ((((hkind.append (List.Sublist.refl _)).append (keys_present_sublist _ _ _)).append
      (keys_present_sublist _ _ _)).append (keys_present_sublist _ _ _)).append
      (keys_present_sublist _ _ _)
  exact hkeys.nodup (by decide)

/-- Score and points are finite where they are known. -/
structure HasFiniteScores (it : Item) : Prop where
  score : ∀ s, it.score = some s → s.isFinite = true
  points : ∀ s, it.points = some s → s.isFinite = true

instance (it : Item) : Decidable it.HasFiniteScores :=
  decidable_of_iff ((∀ s ∈ it.score, s.isFinite = true) ∧ ∀ s ∈ it.points, s.isFinite = true)
    ⟨fun h => ⟨h.1, h.2⟩, fun h => ⟨h.score, h.points⟩⟩

/-- A document can tell all parts of the item: scores that are finite, and an instant that clocks
show. -/
structure FitsDocument (it : Item) : Prop extends it.HasFiniteScores where
  publishedAt : ∀ t, it.publishedAt = some t → t.LeapEndsMinute

instance (it : Item) : Decidable it.FitsDocument :=
  decidable_of_iff (it.HasFiniteScores ∧ ∀ t ∈ it.publishedAt, t.LeapEndsMinute)
    ⟨fun h => ⟨h.1, h.2⟩, fun h => ⟨h.toHasFiniteScores, h.publishedAt⟩⟩

/-- The kind is read from its own fields. -/
theorem decodeKind?_fields (it : Item) : Kind.decode? (named it.fields) = some it.kind := by
  have hname : valuesOf Kind.nameKey (named it.fields) = [.text it.kind.name] := by
    rw [valuesOf_named it.nodup_keys]
    rfl
  unfold Kind.decode?
  rw [hname]
  cases hkind : it.kind with
  | article => rfl
  | other => rfl
  | deal c =>
    have hoffers : valuesOf Kind.offersKey (named it.fields) = [.text c] := by
      rw [valuesOf_named it.nodup_keys, fields, hkind]
      rfl
    show Kind.decodeOffers? (named it.fields) = some (Kind.deal c)
    unfold Kind.decodeOffers?
    rw [hoffers]
    rfl

/-- The other fields stand under their keys. -/
theorem lookup_fields (it : Item) :
    keys.map (fun key => it.fields.lookup key) =
      [some (.text it.category), some (.text it.publishTime), some (.text it.title),
       some (.text it.description), some (.text it.url), some (.text it.urlHash),
       some (.text it.paddedImage), some (.text it.image), some (.text it.publisherId),
       some (.text it.publisherName), it.score.map ScoreForm.number.write,
       it.points.map ScoreForm.number.write, it.relativeTime.map Json.text,
       it.publishedAt.map Instant.encode] := by
  have hkind : ∀ key ∈ keys, it.kind.encode.lookup key = none := by
    simp only [keys, Kind.encode, Kind.nameKey, Kind.offersKey]
    cases it.kind <;> simp [List.lookup_cons]
  simp only [keys, List.forall_mem_cons] at hkind
  simp [keys, fields, List.lookup_append, hkind, lookup_present, List.lookup_cons]

/-- The known fields of an object say what the item is, all but its kind. -/
structure ToldBy (it : Item) (form : ScoreForm) (known : List (String × Json)) : Prop where
  category : field? text? "" "category" known = some it.category
  publishTime : field? text? "" "publish_time" known = some it.publishTime
  title : field? text? "" "title" known = some it.title
  description : field? text? "" "description" known = some it.description
  url : field? text? "" "url" known = some it.url
  urlHash : field? text? "" "url_hash" known = some it.urlHash
  paddedImage : field? text? "" "padded_img" known = some it.paddedImage
  image : field? text? "" "img" known = some it.image
  publisherId : field? text? "" "publisher_id" known = some it.publisherId
  publisherName : field? text? "" "publisher_name" known = some it.publisherName
  score : field? (optional? form.read?) none "score" known = some it.score
  points : field? (optional? form.read?) none "points" known = some it.points
  relativeTime : field? (optional? text?) none "relative_time" known = some it.relativeTime
  publishedAt : field? (optional? Instant.decode?) none "published_at" known = some it.publishedAt

/-- An item is read from an object exactly if the fields tell its kind and all its parts. -/
theorem ofFields?_eq_some_iff {form : ScoreForm} {fs : List (Option String × Json)} {it : Item} :
    ofFields? form fs = some it ↔ ∃ known, knownFields? keys fs = some known ∧
      Kind.decode? fs = some it.kind ∧ it.ToldBy form known := by
  unfold ofFields?
  constructor
  · intro h
    obtain ⟨known, hknown, h⟩ := Option.bind_eq_some_iff.mp h
    obtain ⟨kind, hkind, h⟩ := Option.bind_eq_some_iff.mp h
    obtain ⟨_, hcategory, h⟩ := Option.bind_eq_some_iff.mp h
    obtain ⟨_, hpublishTime, h⟩ := Option.bind_eq_some_iff.mp h
    obtain ⟨_, htitle, h⟩ := Option.bind_eq_some_iff.mp h
    obtain ⟨_, hdescription, h⟩ := Option.bind_eq_some_iff.mp h
    obtain ⟨_, hurl, h⟩ := Option.bind_eq_some_iff.mp h
    obtain ⟨_, hurlHash, h⟩ := Option.bind_eq_some_iff.mp h
    obtain ⟨_, hpaddedImage, h⟩ := Option.bind_eq_some_iff.mp h
    obtain ⟨_, himage, h⟩ := Option.bind_eq_some_iff.mp h
    obtain ⟨_, hpublisherId, h⟩ := Option.bind_eq_some_iff.mp h
    obtain ⟨_, hpublisherName, h⟩ := Option.bind_eq_some_iff.mp h
    obtain ⟨_, hscore, h⟩ := Option.bind_eq_some_iff.mp h
    obtain ⟨_, hpoints, h⟩ := Option.bind_eq_some_iff.mp h
    obtain ⟨_, hrelativeTime, h⟩ := Option.bind_eq_some_iff.mp h
    obtain ⟨_, hpublishedAt, h⟩ := Option.bind_eq_some_iff.mp h
    cases h
    exact ⟨known, hknown, hkind, hcategory, hpublishTime, htitle, hdescription, hurl, hurlHash,
      hpaddedImage, himage, hpublisherId, hpublisherName, hscore, hpoints, hrelativeTime,
      hpublishedAt⟩
  · rintro ⟨known, hknown, hkind, h⟩
    have hbind : ∀ {α β : Type} {o : Option α} {a : α} (f : α → Option β), o = some a →
        (o >>= f) = f a := by
      rintro α β o a f rfl
      rfl
    rw [hbind _ hknown, hbind _ hkind]
    extract_lets text optional
    rw [hbind _ h.category, hbind _ h.publishTime, hbind _ h.title, hbind _ h.description,
      hbind _ h.url, hbind _ h.urlHash, hbind _ h.paddedImage, hbind _ h.image,
      hbind _ h.publisherId, hbind _ h.publisherName, hbind _ h.score, hbind _ h.points,
      hbind _ h.relativeTime, hbind _ h.publishedAt]
    rfl

/-- The fields of the document of an item tell that item. -/
theorem ofFields?_fields {it : Item} (h : it.FitsDocument) :
    ofFields? .number (named it.fields) = some it := by
  obtain ⟨known, hknown, hvalues⟩ := exists_knownFields?_named it.nodup_keys keys
  rw [it.lookup_fields] at hvalues
  -- the known fields hold what was written under each key
  simp only [keys, List.map_cons, List.map_nil, List.cons.injEq, and_true] at hvalues
  obtain ⟨hcategory, hpublishTime, htitle, hdescription, hurl, hurlHash, hpaddedImage, himage,
    hpublisherId, hpublisherName, hscore, hpoints, hrelativeTime, hpublishedAt⟩ := hvalues
  refine ofFields?_eq_some_iff.mpr ⟨known, hknown, it.decodeKind?_fields, ?_⟩
  constructor
  case score =>
    exact optional?_of_lookup hscore fun s hs => ScoreForm.read?_write (h.score s hs)
  case points =>
    exact optional?_of_lookup hpoints fun s hs => ScoreForm.read?_write (h.points s hs)
  case relativeTime =>
    exact optional?_of_lookup hrelativeTime fun s _ => ⟨Json.noConfusion, rfl⟩
  case publishedAt =>
    exact optional?_of_lookup hpublishedAt fun t ht =>
      ⟨Json.noConfusion, Instant.decode?_encode_of_leapEndsMinute (h.publishedAt t ht)⟩
  -- the others are texts
  case category => exact field?_of_lookup hcategory ""
  case publishTime => exact field?_of_lookup hpublishTime ""
  case title => exact field?_of_lookup htitle ""
  case description => exact field?_of_lookup hdescription ""
  case url => exact field?_of_lookup hurl ""
  case urlHash => exact field?_of_lookup hurlHash ""
  case paddedImage => exact field?_of_lookup hpaddedImage ""
  case image => exact field?_of_lookup himage ""
  case publisherId => exact field?_of_lookup hpublisherId ""
  case publisherName => exact field?_of_lookup hpublisherName ""

theorem text_of_mem_encodeKind {k : Kind} {f : String × Json} (h : f ∈ k.encode) :
    ∃ s, f.2 = .text s := by
  cases k with
  | deal c => rcases List.mem_pair.mp h with rfl | rfl <;> exact ⟨_, rfl⟩
  | _ => exact ⟨_, congrArg Prod.snd (List.mem_singleton.mp h)⟩

/-- Each field holds a text or a score. -/
theorem text_or_score_of_mem_fields {it : Item} {f : String × Json} (h : f ∈ it.fields) :
    (∃ s, f.2 = .text s) ∨
      ∃ s, (it.score = some s ∨ it.points = some s) ∧ f.2 = ScoreForm.number.write s := by
  simp only [fields, List.mem_append, or_assoc] at h
  rcases h with hkind | htext | h | h | h | h
  · exact Or.inl (text_of_mem_encodeKind hkind)
  · simp only [List.mem_cons, List.not_mem_nil, or_false] at htext
    left
    rcases htext with rfl | rfl | rfl | rfl | rfl | rfl | rfl | rfl | rfl | rfl
    all_goals exact ⟨_, rfl⟩
  · obtain ⟨s, hs, rfl⟩ := mem_present.mp h
    exact Or.inr ⟨s, Or.inl hs, rfl⟩
  · obtain ⟨s, hs, rfl⟩ := mem_present.mp h
    exact Or.inr ⟨s, Or.inr hs, rfl⟩
  · obtain ⟨s, -, rfl⟩ := mem_present.mp h
    exact Or.inl ⟨s, rfl⟩
  · obtain ⟨t, -, rfl⟩ := mem_present.mp h
    exact Or.inl ⟨_, rfl⟩

/-- The numbers of a document are finite, whatever the scores are. -/
theorem hasFiniteNumbers_encodeWith (it : Item) : (it.encodeWith .number).HasFiniteNumbers := by
  rw [encodeWith_eq]
  refine .object ?_
  intro f hf
  rcases text_or_score_of_mem_fields hf with ⟨s, hs⟩ | ⟨s, -, hs⟩
  · rw [hs]
    exact .str _
  · rw [hs]
    exact ScoreForm.hasFiniteNumbers_write s

/-- Each field holds a literal that makes sense. -/
theorem literal_of_mem_fields {it : Item} (h : it.HasFiniteScores) :
    ∀ f ∈ it.fields, f.2.depth ≤ 0 ∧ f.2.denotes = true := by
  intro f hf
  rcases text_or_score_of_mem_fields hf with ⟨s, hs⟩ | ⟨s, hknown, hs⟩
  · rw [hs]
    exact ⟨Nat.le_refl 0, rfl⟩
  · have hfinite : s.isFinite = true := hknown.elim (h.score s) (h.points s)
    rw [hs, ScoreForm.write_number hfinite]
    exact ⟨Nat.le_refl 0, rfl⟩

/-- An item is read from its document as it was written. -/
theorem decodeWith?_encodeWith {it : Item} (h : it.FitsDocument) {room : Nat} (hroom : 1 ≤ room) :
    decodeWith? .number room (it.encodeWith .number) = some it := by
  have hliteral := literal_of_mem_fields h.toHasFiniteScores
  have hdepth : (Json.object it.fields).depth ≤ room :=
    (depth_object_le fun f hf => (hliteral f hf).1).trans hroom
  have hdenotes : (Json.object it.fields).denotes = true :=
    denotes_object fun f hf => (hliteral f hf).2
  rw [encodeWith_eq]
  show (if (Json.object it.fields).depth ≤ room && (Json.object it.fields).denotes then
    ofFields? .number (named it.fields) else none) = some it
  rw [decide_eq_true hdepth, hdenotes]
  exact ofFields?_fields h

/-- An item that was read is one that a document can tell. -/
theorem ensures_fitsDocument (room : Nat) : Ensures (decodeWith? .number room) FitsDocument := by
  intro j it hj h
  unfold decodeWith? at h
  split at h
  case h_1 fs =>
    split at h
    · obtain ⟨known, hknown, -, htold⟩ := ofFields?_eq_some_iff.mp h
      have hfinite := hj.record? hknown
      have hnone : ∀ {α : Type} {P : α → Prop} (a : α), none = some a → P a := by
        rintro α P a ⟨⟩
      constructor
      case toHasFiniteScores =>
        constructor
        case score => exact Ensures.field? hfinite Ensures.score?.optional? hnone htold.score
        case points => exact Ensures.field? hfinite Ensures.score?.optional? hnone htold.points
      case publishedAt =>
        exact Ensures.field? hfinite Instant.ensures_leapEndsMinute.optional? hnone
          htold.publishedAt
    · cases h
  case h_2 => cases h

end Item

end Newsfeed
