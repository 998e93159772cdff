import Newsfeed.Document.Settings
import Newsfeed.Settings.EnvFile
import Newsfeed.Settings.FileTree
import Newsfeed.Toml.Reader

/-!
# Loading settings

Settings come from a TOML text. Which one is decided once: a file that a variable names, else the
file at a fixed place, else none. A source that is there but cannot be used is an error; no other
source takes its place.

* `Config.ofToml?` : the settings of a text.
* `Config.ofFile` : the settings of the file at a path.
* `Config.load` : the settings that a variable and the files decide on.
-/

namespace Newsfeed

/-- Why there are no settings. -/
inductive ConfigError where
  /-- A text is no TOML, or a setting has a value of the wrong type. -/
  | malformed
  /-- There is no text at a path. -/
  | unreadable (path : String)
  /-- The variable names a path where nothing stands. -/
  | missingTarget
deriving DecidableEq, Repr

namespace Config

/-- The variable that names the file of the settings. -/
def pathVariable : String := "FEED_CONFIG_PATH"

/-- The file of the settings if the variable is not set. -/
def fallbackPath : String := "config/feed.toml"

/-- The file that may supply the variable. -/
def envFilePath : String := ".env"

end Config

/-- An error in words. -/
def ConfigError.message : ConfigError → String
  | malformed => "parsing feed config"
  | unreadable path => "reading feed config from " ++ path
  | missingTarget => Config.pathVariable ++ " points to non-existent path"

namespace Config

/-- The settings of a TOML text as they are written. -/
def ofToml? (text : String) : Option Config := do
  let fields ← Toml.parse? text
  decodeWith? .number (Toml.table .header fields).toJson

/-- The settings of a TOML text, sanitized. -/
def ofText (text : String) : Except ConfigError Config :=
  match ofToml? text with
  | some c => .ok c.sanitized
  | none => .error .malformed

/-- The settings of the file at a path. -/
def ofFile (files : Files) (path : String) : Except ConfigError Config :=
  match files.text? path with
  | some text => ofText text
  | none => .error (.unreadable path)

/-- The variable after the environment file has been read, which only sets what is not set. The file
is looked for in the working directory and not in the directories above it. -/
def effectivePath (named? : Option String) (files : Files) : Option String :=
  let set : EnvFile.Variables := named?.elim [] fun v => [(pathVariable, v)]
  match files.bytes? envFilePath with
  | some bytes => (EnvFile.load set bytes).lookup pathVariable
  | none => named?

/-- The settings that a path, if there is one, and the files decide on. -/
def ofSources (path? : Option String) (files : Files) : Except ConfigError Config :=
  match path? with
  | some path => if files.isThere path then ofFile files path else .error .missingTarget
  | none => if files.isThere fallbackPath then ofFile files fallbackPath else .ok {}

/-- The settings that the variable, the environment file and the files decide on. -/
def load (named? : Option String) (files : Files) : Except ConfigError Config :=
  ofSources (effectivePath named? files) files

end Config

end Newsfeed
