import Newsfeed.Assembly

/-! # Sanitized settings

Sanitizing gives settings that an assembly can run with, whatever it is given: each field lies
between its limits, and the default that replaces an unusable value lies there as well. Settings
that are usable already are left alone, so the valid settings are just the fixed points.

* `isValid_sanitized`, `sanitized_of_isValid` : sanitized settings are valid, and valid ones stay as
  they are; being a projection (`sanitized_sanitized`) follows from the two.
* `get_sanitized_congr` : each field is repaired without a look at the others.
* `Span.IsMeasurable` : the hours that can be measured at all.
* `ofHours?_of_isValid`, `recentWindow_of_isValid` : a valid window can be measured, so it is never
  replaced.
* `Assembler.ofConfig_sanitized` : an assembler does not tell settings from their repair.
* `sanitized_projection` : all of this in one statement.
-/

namespace Newsfeed

namespace Span

theorem wholeSeconds_ofSeconds (seconds : Int) :
    (ofSeconds seconds 0).wholeSeconds = seconds := by
  rw [wholeSeconds, ofSeconds, Int.add_zero]
  exact Int.mul_tdiv_cancel seconds (by decide)

/-- Whether a number of hours can be measured: its milliseconds and their negative fit into 64 bits
with a sign. -/
def IsMeasurable (hours : Int) : Prop :=
  -0x7fffffffffffffff ≤ hours * 3600000 ∧ hours * 3600000 ≤ 0x7fffffffffffffff

theorem ofHours?_of_isMeasurable {hours : Int} (h : IsMeasurable hours) :
    ofHours? hours = some (ofSeconds (hours * 3600) 0) := by
  rcases h with ⟨hlower, hupper⟩
  have hmillis : (hours * 3600000).natAbs ≤ maxMillis.natAbs := by
    rw [maxMillis]
    omega
  exact if_pos hmillis

theorem ofHours?_of_not_isMeasurable {hours : Int} (h : ¬ IsMeasurable hours) :
    ofHours? hours = none := by
  have hmillis : ¬ (hours * 3600000).natAbs ≤ maxMillis.natAbs := by
    intro hle
    apply h
    rw [maxMillis] at hle
    constructor <;> omega
  exact if_neg hmillis

end Span

namespace Config

/-! ## Repairing one value -/

theorem one_le_positiveSize {default limit : Nat} (hdefault : 1 ≤ default) (hlimit : 1 ≤ limit)
    (n : Nat) : 1 ≤ positiveSize n default limit := by
  unfold positiveSize
  split <;> omega

theorem positiveSize_le (n default limit : Nat) : positiveSize n default limit ≤ limit :=
  Nat.min_le_right _ _

theorem positiveSize_of_le {n limit : Nat} (hpos : 1 ≤ n) (hle : n ≤ limit) (default : Nat) :
    positiveSize n default limit = n := by
  rw [positiveSize, if_neg (Nat.ne_of_gt hpos), Nat.min_eq_left hle]

theorem isFinite_finiteScore (s : Score) {default : Score} (hdefault : default.isFinite = true) :
    (finiteScore s default).isFinite = true := by
  unfold finiteScore
  split
  · assumption
  · exact hdefault

theorem finiteScore_of_isFinite {s : Score} (h : s.isFinite = true) (default : Score) :
    finiteScore s default = s := if_pos h

/-! ## Valid settings -/

/-- The sanitized settings are valid. -/
theorem isValid_sanitized (c : Config) : c.sanitized.IsValid where
  lead_not_blank := by
    simp only [sanitized]
    split
    · decide
    · rename_i h
      simpa using h
  headlines_pos := one_le_positiveSize (by decide) (by decide) _
  headlines_le := positiveSize_le _ _ _
  recent_le := Nat.min_le_right _ _
  group_le := Nat.min_le_right _ _
  deals_le := Nat.min_le_right _ _
  featured_le := Nat.min_le_right _ _
  pages_pos := one_le_positiveSize (by decide) (by decide) _
  pages_le := positiveSize_le _ _ _
  window_pos := by
    simp only [sanitized, maxWindowHours]
    split <;> omega
  window_le := Int.min_le_right _ _
  penalty_finite := isFinite_finiteScore _ (by decide)
  missing_finite := isFinite_finiteScore _ (by decide)

/-- Valid settings stay as they are: there is nothing to replace and nothing to cut. -/
theorem sanitized_of_isValid {c : Config} (hc : c.IsValid) : c.sanitized = c := by
  have hlead : ¬ isBlankText c.leadCategory = true := by simp [hc.lead_not_blank]
  have hwindow : ¬ c.recentWindowHours ≤ 0 := Int.not_le.mpr hc.window_pos
  rw [sanitized, if_neg hlead, positiveSize_of_le hc.headlines_pos hc.headlines_le,
    Nat.min_eq_left hc.recent_le, Nat.min_eq_left hc.group_le, Nat.min_eq_left hc.deals_le,
    Nat.min_eq_left hc.featured_le, if_neg hwindow, Int.min_eq_left hc.window_le,
    positiveSize_of_le hc.pages_pos hc.pages_le, finiteScore_of_isFinite hc.penalty_finite,
    finiteScore_of_isFinite hc.missing_finite]

theorem sanitized_eq_self_iff (c : Config) : c.sanitized = c ↔ c.IsValid :=
  ⟨fun h => h ▸ isValid_sanitized c, sanitized_of_isValid⟩

@[simp]
theorem sanitized_sanitized (c : Config) : c.sanitized.sanitized = c.sanitized :=
  sanitized_of_isValid (isValid_sanitized c)

/-- The default settings need no repair. -/
theorem isValid_default : ({} : Config).IsValid := (sanitized_eq_self_iff _).1 (by decide)

/-- The limits of valid settings in numbers. -/
theorem isValid_iff (c : Config) : c.IsValid ↔
    isBlankText c.leadCategory = false ∧
    (1 ≤ c.headlinesPerPage ∧ c.headlinesPerPage ≤ 13) ∧
    c.recentPerPage ≤ 4 ∧ c.groupSize ≤ 3 ∧ c.dealsPerPage ≤ 3 ∧ c.featuredDeals ≤ 3 ∧
    (1 ≤ c.maxPages ∧ c.maxPages ≤ 4000) ∧
    (1 ≤ c.recentWindowHours ∧ c.recentWindowHours ≤ 8760) ∧
    c.historyPenalty.isFinite = true ∧ c.missingScore.isFinite = true := by
  constructor
  · intro h
    exact ⟨h.lead_not_blank, ⟨h.headlines_pos, h.headlines_le⟩, h.recent_le, h.group_le, h.deals_le,
      h.featured_le, ⟨h.pages_pos, h.pages_le⟩, ⟨h.window_pos, h.window_le⟩, h.penalty_finite,
      h.missing_finite⟩
  · rintro ⟨hlead, hheadlines, hrecent, hgroup, hdeals, hfeatured, hpages, hwindow, hpenalty,
      hmissing⟩
    exact ⟨hlead, hheadlines.1, hheadlines.2, hrecent, hgroup, hdeals, hfeatured, hpages.1,
      hpages.2, hwindow.1, hwindow.2, hpenalty, hmissing⟩

/-! ## Field by field -/

/-- The fields of the settings. -/
inductive Field where
  | leadCategory | shuffleTop | headlinesPerPage | recentPerPage | groupSize | dealsPerPage
  | featuredDeals | recentWindowHours | maxPages | historyPenalty | missingScore
  | historyMaxResults | timeSuffix
deriving DecidableEq, Repr

/-- What a field holds. -/
def Field.Value : Field → Type
  | leadCategory | timeSuffix => String
  | recentWindowHours => Int
  | historyPenalty | missingScore => Score
  | shuffleTop | headlinesPerPage | recentPerPage | groupSize | dealsPerPage | featuredDeals
  | maxPages | historyMaxResults => Nat

/-- The value of a field. -/
def get (c : Config) : (f : Field) → f.Value
  | .leadCategory => c.leadCategory
  | .shuffleTop => c.shuffleTop
  | .headlinesPerPage => c.headlinesPerPage
  | .recentPerPage => c.recentPerPage
  | .groupSize => c.groupSize
  | .dealsPerPage => c.dealsPerPage
  | .featuredDeals => c.featuredDeals
  | .recentWindowHours => c.recentWindowHours
  | .maxPages => c.maxPages
  | .historyPenalty => c.historyPenalty
  | .missingScore => c.missingScore
  | .historyMaxResults => c.historyMaxResults
  | .timeSuffix => c.timeSuffix

/-- Settings that agree in a field agree in it after the repair as well. -/
theorem get_sanitized_congr {a b : Config} {f : Field} (h : a.get f = b.get f) :
    a.sanitized.get f = b.sanitized.get f := by
  cases f with
  | shuffleTop | historyMaxResults | timeSuffix => exact h
  | leadCategory | headlinesPerPage | recentPerPage | groupSize | dealsPerPage | featuredDeals
  | recentWindowHours | maxPages | historyPenalty | missingScore =>
      simp only [get, sanitized] at h ⊢
      rw [h]

/-! ## The window of valid settings -/

/-- A window of valid settings can be measured. -/
theorem ofHours?_of_isValid {c : Config} (hc : c.IsValid) :
    Span.ofHours? c.recentWindowHours = some (Span.ofSeconds (c.recentWindowHours * 3600) 0) := by
  have hlower := hc.window_pos
  have hupper : c.recentWindowHours ≤ 8760 := hc.window_le
  apply Span.ofHours?_of_isMeasurable
  constructor <;> omega

/-- So it is never replaced. -/
theorem recentWindow_of_isValid {c : Config} (hc : c.IsValid) :
    c.recentWindow = Span.ofSeconds (c.recentWindowHours * 3600) 0 := by
  rw [recentWindow, ofHours?_of_isValid hc, Option.getD_some]

theorem wholeSeconds_recentWindow {c : Config} (hc : c.IsValid) :
    c.recentWindow.wholeSeconds = c.recentWindowHours * 3600 := by
  rw [recentWindow_of_isValid hc, Span.wholeSeconds_ofSeconds]

end Config

/-! ## Assemblers of sanitized settings -/

namespace Assembler

variable {σ : Type}

/-- Sanitized settings make the same assembler as those that they repair. -/
@[simp]
theorem ofConfig_sanitized (c : Config) (shuffler : Shuffler σ) (state : σ) :
    ofConfig c.sanitized shuffler state = ofConfig c shuffler state := by
  rw [ofConfig, ofConfig, Config.sanitized_sanitized]

/-- An assembler of some settings: a new one, or one that has run before. -/
inductive BuiltFrom (c : Config) : Assembler σ → Prop where
  | new (shuffler : Shuffler σ) (state : σ) : BuiltFrom c (ofConfig c shuffler state)
  | next {a : Assembler σ} (ha : BuiltFrom c a) (enabled : Enablement) (hosts : List String)
      (now : Instant) (items : List Item) : BuiltFrom c (a.assemble enabled hosts now items).2

/-- A run changes the state of the shuffler only, so every run has the sanitized settings. -/
theorem BuiltFrom.config_eq {c : Config} {a : Assembler σ} (ha : a.BuiltFrom c) :
    a.config = c.sanitized := by
  induction ha with
  | new shuffler state => rfl
  | next ha enabled hosts now items ih => exact ih

end Assembler

/-! ## Sanitizing as a projection -/

/-- Sanitizing is a projection onto the valid settings. It reaches them from anywhere, leaves
nothing but them alone, and repairs each field by itself; shuffling, history and zone marker are
never touched. The window of an assembler can be measured in every run that it makes, and an
assembler does not tell settings from their repair. -/
theorem sanitized_projection (c : Config) :
    (c.IsValid ↔
      Config.isBlankText c.leadCategory = false ∧
      (1 ≤ c.headlinesPerPage ∧ c.headlinesPerPage ≤ 13) ∧
      c.recentPerPage ≤ 4 ∧ c.groupSize ≤ 3 ∧ c.dealsPerPage ≤ 3 ∧ c.featuredDeals ≤ 3 ∧
      (1 ≤ c.maxPages ∧ c.maxPages ≤ 4000) ∧
      (1 ≤ c.recentWindowHours ∧ c.recentWindowHours ≤ 8760) ∧
      c.historyPenalty.isFinite = true ∧ c.missingScore.isFinite = true) ∧
    c.sanitized.IsValid ∧
    (c.sanitized = c ↔ c.IsValid) ∧
    c.sanitized.sanitized = c.sanitized ∧
    (c.sanitized.shuffleTop = c.shuffleTop ∧
      c.sanitized.historyMaxResults = c.historyMaxResults ∧
      c.sanitized.timeSuffix = c.timeSuffix) ∧
    (∀ (f : Config.Field) (b : Config), b.get f = c.get f →
      b.sanitized.get f = c.sanitized.get f) ∧
    (∀ (σ : Type) (a : Assembler σ), a.BuiltFrom c →
      Span.ofHours? a.config.recentWindowHours = some a.config.recentWindow) ∧
    (∀ (σ : Type) (shuffler : Shuffler σ) (state : σ) (enabled : Enablement) (hosts : List String)
        (now : Instant) (items : List Item),
      (Assembler.ofConfig c.sanitized shuffler state).assemble enabled hosts now items =
        (Assembler.ofConfig c shuffler state).assemble enabled hosts now items) := by
  refine ⟨c.isValid_iff, c.isValid_sanitized, c.sanitized_eq_self_iff, c.sanitized_sanitized,
    ⟨rfl, rfl, rfl⟩, ?_, ?_, ?_⟩
  · intro f b h
    exact Config.get_sanitized_congr h
  · intro σ a ha
    have hvalid : a.config.IsValid := ha.config_eq ▸ c.isValid_sanitized
    rw [Config.recentWindow_of_isValid hvalid, Config.ofHours?_of_isValid hvalid]
  · intro σ shuffler state enabled hosts now items
    rw [Assembler.ofConfig_sanitized]

/-- Settings in which nothing is usable: blanks beyond ASCII, sizes at the ends of 64 bits, the
earliest window, a NaN and an infinity. -/
def hopelessConfig : Config :=
  { leadCategory := "\u3000\t\u2003", headlinesPerPage := 0, recentPerPage := 0xffffffffffffffff,
    groupSize := 0xffffffffffffffff, dealsPerPage := 0xffffffffffffffff,
    featuredDeals := 0xffffffffffffffff, recentWindowHours := -0x8000000000000000,
    maxPages := 0xffffffffffffffff, historyPenalty := ⟨0x7ff8000000000000⟩,
    missingScore := ⟨0xfff0000000000000⟩ }

theorem sanitized_projection_sample :
    let c := hopelessConfig
    let b : Config := { recentWindowHours := -0x8000000000000000 }
    let a := Assembler.ofConfig c Shuffler.reversal ()
    let later := (a.assemble {} [] Instant.epoch []).2
    c.sanitized = {} ∧ c.sanitized.IsValid ∧ ¬ c.IsValid ∧
      b.get .recentWindowHours = c.get .recentWindowHours ∧
      b.sanitized.get .recentWindowHours = c.sanitized.get .recentWindowHours ∧
      later.BuiltFrom c ∧
      Span.ofHours? later.config.recentWindowHours = some later.config.recentWindow := by
  intro c b a later
  obtain ⟨-, hvalid, hself, -, -, hfield, hwindow, -⟩ := sanitized_projection hopelessConfig
  have hlater : later.BuiltFrom c := .next (.new _ _) _ _ _ _
  refine ⟨by decide, hvalid, ?_, rfl, hfield .recentWindowHours b rfl, hlater,
    hwindow Unit later hlater⟩
  rw [← hself]
  decide

end Newsfeed
