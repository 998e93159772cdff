import Newsfeed.Proofs.Settings
import Newsfeed.Settings.Load

/-! # Where settings come from

Settings have three sources: the file that a variable names, the file at a fixed place, and the
defaults. The variable and the fixed place decide which of them is chosen, and the choice is final.
What is wrong with the chosen file is reported, and no other source is asked instead.

* `Config.HoldsAt`, `Config.FailsAt`: what the file at a path gives, or why it gives nothing;
* `Config.SettledBy`: a result that the file at a path decides on, with `settledBy_ofFile` for a file
  that is there and `settledBy_missing` for one that is not;
* `Config.effectivePath_some`: the environment file never overrides the variable;
* `Config.ofSources_congr`: nothing is read but what stands at the chosen path;
* `chosen_source_final`: all of this about loading, whose results are sanitized settings.
-/

namespace Newsfeed

namespace Config

/-! ## Every result is sanitized -/

theorem sanitized_of_ofText {text : String} {c : Config} (h : ofText text = .ok c) :
    c.sanitized = c := by
  unfold ofText at h
  split at h
  · cases h
    exact sanitized_sanitized _
  · cases h

theorem sanitized_of_ofFile {files : Files} {path : String} {c : Config}
    (h : ofFile files path = .ok c) : c.sanitized = c := by
  unfold ofFile at h
  split at h
  · exact sanitized_of_ofText h
  · cases h

theorem sanitized_of_ofSources {path? : Option String} {files : Files} {c : Config}
    (h : ofSources path? files = .ok c) : c.sanitized = c := by
  unfold ofSources at h
  split at h
  · split at h
    · exact sanitized_of_ofFile h
    · cases h
  · split at h
    · exact sanitized_of_ofFile h
    · cases h
      exact sanitized_of_isValid isValid_default

/-! ## What the file at a path gives -/

/-- Something stands at the path, a text can be read there, and it reads as these settings. -/
def HoldsAt (files : Files) (path : String) (c : Config) : Prop :=
  files.isThere path = true ∧ ∃ text, files.text? path = some text ∧ ofToml? text = some c

/-- Why there are no settings at a path: nothing stands there, no text can be read there, as in a
directory or where the bytes are not UTF-8, or the text does not read as settings. -/
inductive FailsAt (files : Files) (path : String) : ConfigError → Prop where
  | missing : files.isThere path = false → FailsAt files path .missingTarget
  | unreadable : files.isThere path = true → files.text? path = none →
      FailsAt files path (.unreadable path)
  | malformed {text : String} : files.isThere path = true → files.text? path = some text →
      ofToml? text = none → FailsAt files path .malformed

/-- There are settings at a path, or there is a reason why not. -/
theorem holdsAt_or_failsAt (files : Files) (path : String) :
    (∃ c, HoldsAt files path c) ∨ ∃ e, FailsAt files path e := by
  cases hthere : files.isThere path with
  | false => exact .inr ⟨_, .missing hthere⟩
  | true =>
    cases htext : files.text? path with
    | none => exact .inr ⟨_, .unreadable hthere htext⟩
    | some text =>
      cases hparse : ofToml? text with
      | none => exact .inr ⟨_, .malformed hthere htext hparse⟩
      | some c => exact .inl ⟨c, hthere, text, htext, hparse⟩

/-- A result that the file at a path decides on: what the file holds, sanitized, or the reason why it
holds nothing. -/
structure SettledBy (files : Files) (path : String) (result : Except ConfigError Config) :
    Prop where
  error_iff : ∀ e, result = .error e ↔ FailsAt files path e
  ok_iff : ∀ c, result = .ok c ↔ ∃ raw, HoldsAt files path raw ∧ c = raw.sanitized

/-- It is enough to follow the file to the result, since one of the two cases is there. -/
theorem SettledBy.of_cases {files : Files} {path : String} {result : Except ConfigError Config}
    (hholds : ∀ raw, HoldsAt files path raw → result = .ok raw.sanitized)
    (hfails : ∀ e, FailsAt files path e → result = .error e) : SettledBy files path result := by
  constructor
  case error_iff =>
    intro e
    constructor
    · intro hresult
      rcases holdsAt_or_failsAt files path with ⟨raw, hraw⟩ | ⟨e', he'⟩
      · rw [hholds raw hraw] at hresult
        cases hresult
      · rw [hfails e' he'] at hresult
        cases hresult
        exact he'
    · exact hfails e
  case ok_iff =>
    intro c
    constructor
    · intro hresult
      rcases holdsAt_or_failsAt files path with ⟨raw, hraw⟩ | ⟨e', he'⟩
      · rw [hholds raw hraw] at hresult
        cases hresult
        exact ⟨raw, hraw, rfl⟩
      · rw [hfails e' he'] at hresult
        cases hresult
    · rintro ⟨raw, hraw, rfl⟩
      exact hholds raw hraw

/-- A path where something stands decides on what reading the file there comes to. -/
theorem settledBy_ofFile {files : Files} {path : String} (h : files.isThere path = true) :
    SettledBy files path (ofFile files path) := by
  apply SettledBy.of_cases
  · rintro raw ⟨-, text, htext, hparse⟩
    simp only [ofFile, htext, ofText, hparse]
  · intro e he
    cases he with
    | missing hmissing =>
      rw [h] at hmissing
      cases hmissing
    | unreadable _ htext => simp only [ofFile, htext]
    | malformed _ htext hparse => simp only [ofFile, htext, ofText, hparse]

/-- A path where nothing stands decides on an error. -/
theorem settledBy_missing {files : Files} {path : String} (h : files.isThere path = false) :
    SettledBy files path (.error .missingTarget) := by
  apply SettledBy.of_cases
  · rintro raw ⟨hthere, -⟩
    rw [h] at hthere
    cases hthere
  · intro e he
    cases he with
    | missing _ => rfl
    | unreadable hthere _ | malformed hthere _ _ =>
      rw [h] at hthere
      cases hthere

/-! ## The choice of a source -/

/-- The environment file does not change a variable that is set. -/
theorem effectivePath_some (path : String) (files : Files) :
    effectivePath (some path) files = some path := by
  unfold effectivePath
  split
  · exact EnvFile.lookup_load _ (by simp [pathVariable])
  · rfl

/-- A path decides, whatever stands at the fixed place. -/
theorem settledBy_ofSources_some (files : Files) (path : String) :
    SettledBy files path (ofSources (some path) files) := by
  rw [ofSources]
  split
  · rename_i hthere
    exact settledBy_ofFile hthere
  · rename_i hmissing
    exact settledBy_missing (by simpa using hmissing)

/-- Without a path the fixed place decides, if something stands there. -/
theorem settledBy_ofSources_none {files : Files} (h : files.isThere fallbackPath = true) :
    SettledBy files fallbackPath (ofSources none files) := by
  rw [ofSources, if_pos h]
  exact settledBy_ofFile h

/-- Reading a file looks at nothing but the bytes at its path. -/
theorem ofFile_congr {files files' : Files} {path : String}
    (h : files'.bytes? path = files.bytes? path) : ofFile files' path = ofFile files path := by
  rw [ofFile, ofFile, Files.text?, Files.text?, h]

/-- Nothing is read but what stands at the chosen path. -/
theorem ofSources_congr {path? : Option String} {files files' : Files}
    (hthere : files'.isThere (path?.getD fallbackPath) = files.isThere (path?.getD fallbackPath))
    (hbytes : files'.bytes? (path?.getD fallbackPath) = files.bytes? (path?.getD fallbackPath)) :
    ofSources path? files' = ofSources path? files := by
  have hfile := ofFile_congr hbytes
  cases path? with
  | none | some path =>
    rw [Option.getD] at hthere hfile
    rw [ofSources, ofSources, hthere, hfile]

end Config

/-- Every result of loading is sanitized, and the chosen source is final. A variable that is set is not
changed by the environment file. If the variable names a path after that, the path decides: an
error is reported if and only if nothing can be read there, the settings there are loaded
otherwise. If the variable is not set, the fixed place decides in the same way, and only if nothing
stands there are the defaults loaded. Whatever else is in the files, and however the variable came to
be set, the outcome is the same. -/
theorem chosen_source_final (named? : Option String) (files : Files) :
    let path? := Config.effectivePath named? files
    let chosen := path?.getD Config.fallbackPath
    (∀ text c, Config.ofText text = .ok c → c.sanitized = c) ∧
    (∀ path c, Config.ofFile files path = .ok c → c.sanitized = c) ∧
    (∀ c, Config.load named? files = .ok c → c.sanitized = c) ∧
    (∀ path, named? = some path → path? = some path) ∧
    (∀ path, path? = some path → Config.SettledBy files path (Config.load named? files)) ∧
    (path? = none →
      (files.isThere Config.fallbackPath = true →
        Config.SettledBy files Config.fallbackPath (Config.load named? files)) ∧
      (files.isThere Config.fallbackPath = false → Config.load named? files = .ok {})) ∧
    (∀ (named?' : Option String) (files' : Files),
      Config.effectivePath named?' files' = path? →
      files'.isThere chosen = files.isThere chosen →
      files'.bytes? chosen = files.bytes? chosen →
      Config.load named?' files' = Config.load named? files) := by
  intro path? chosen
  have hload : Config.load named? files = Config.ofSources path? files := rfl
  refine ⟨fun _ _ => Config.sanitized_of_ofText, fun _ _ => Config.sanitized_of_ofFile,
    fun _ => Config.sanitized_of_ofSources, ?_, ?_, ?_, ?_⟩
  · rintro path rfl
    exact Config.effectivePath_some path files
  · intro path hpath
    rw [hload, hpath]
    exact Config.settledBy_ofSources_some files path
  · intro hpath
    rw [hload, hpath]
    constructor
    · exact Config.settledBy_ofSources_none
    · intro hmissing
      rw [Config.ofSources, if_neg (by simp [hmissing])]
  · intro named?' files' hpath hthere hbytes
    rw [hload, Config.load, hpath]
    exact Config.ofSources_congr hthere hbytes

/-- A file that holds a text. -/
def FileTree.ofText (text : String) : FileTree := .file text.toUTF8.data.toList

/-- A file of settings, one of which is beyond its limit. -/
def sampleSettings : FileTree := .ofText "group_size = 0\nmax_pages = 5000"

/-- An environment file that names a file of settings, that file, and settings at the fixed place. -/
def sampleFiles : FileTree :=
  .dir [(".env", .ofText "FEED_CONFIG_PATH=mine.toml"), ("mine.toml", sampleSettings),
    ("config", .dir [("feed.toml", .ofText "group_size = 1")])]

/-- Settings at the fixed place and nothing else. -/
def plainFiles : FileTree := .dir [("config", .dir [("feed.toml", .ofText "group_size = 1")])]

theorem chosen_source_final_sample :
    let alone : FileTree := .dir [("mine.toml", sampleSettings)]
    Config.effectivePath none sampleFiles = some "mine.toml" ∧
      Config.load none sampleFiles = .ok { groupSize := 0 } ∧
      Config.load (some "mine.toml") alone = Config.load none sampleFiles ∧
      Config.load (some "config") sampleFiles = .error (.unreadable "config") ∧
      Config.load (some "nowhere") sampleFiles = .error .missingTarget ∧
      Config.load none plainFiles = .ok { groupSize := 1 } ∧
      Config.load none (FileTree.dir []) = .ok {} := by
  intro alone
  have hmine : Config.effectivePath none sampleFiles = some "mine.toml" := by decide +kernel
  obtain ⟨-, -, -, -, hnamed, -, hlocal⟩ := chosen_source_final none sampleFiles
  refine ⟨hmine, ?_, ?_, ?_, ?_, ?_, ?_⟩
  · have hholds : Config.HoldsAt sampleFiles "mine.toml" { groupSize := 0, maxPages := 5000 } :=
      ⟨rfl, "group_size = 0\nmax_pages = 5000", by decide +kernel, by decide +kernel⟩
    exact ((hnamed _ hmine).ok_iff _).mpr ⟨_, hholds, by decide⟩
  · rw [hmine] at hlocal
    exact hlocal (some "mine.toml") alone (by decide +kernel) rfl rfl
  · obtain ⟨-, -, -, hkept, hdirectory, -⟩ := chosen_source_final (some "config") sampleFiles
    exact ((hdirectory _ (hkept _ rfl)).error_iff _).mpr (.unreadable rfl rfl)
  · obtain ⟨-, -, -, hkept, hnowhere, -⟩ := chosen_source_final (some "nowhere") sampleFiles
    exact ((hnowhere _ (hkept _ rfl)).error_iff _).mpr (.missing (by decide +kernel))
  · obtain ⟨-, -, -, -, -, hplace, -⟩ := chosen_source_final none plainFiles
    have hholds : Config.HoldsAt plainFiles Config.fallbackPath { groupSize := 1 } :=
      ⟨rfl, "group_size = 1", by decide +kernel, by decide +kernel⟩
    have hsettled := (hplace (by decide +kernel)).1 (by decide +kernel)
    exact (hsettled.ok_iff _).mpr ⟨_, hholds, by decide⟩
  · obtain ⟨-, -, -, -, -, hnothing, -⟩ := chosen_source_final none (FileTree.dir [])
    exact (hnothing (by decide +kernel)).2 (by decide +kernel)

end Newsfeed
