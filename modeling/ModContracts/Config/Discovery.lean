import ModContracts.Config
import ModContracts.Files
import ModContracts.Files.Path

/-!
# Settings files

* `ConfigError` — why there are no settings, with its `message`;
* `Config.read` — the settings of a file;
* `Config.discover` — the settings of a directory, which need not have a settings file.
-/

namespace ModContracts

/-- Why there are no settings. -/
inductive ConfigError where
  | file (error : FileError)
  /-- The file holds no settings. -/
  | malformed
  deriving DecidableEq, Repr

/-- The text of an error. -/
def ConfigError.message : ConfigError → String
  | .file error => error.message
  | .malformed => "TOML parse error"

namespace Config

variable {m : Type → Type} [Monad m] (files : Files m)

/-- The settings of a text. -/
def ofText (text : String) : Except ConfigError Config :=
  match ofToml? text with
  | some c => .ok c
  | none => .error .malformed

/-- The settings of a file. -/
def read (path : String) : m (Except ConfigError Config) := do
  match ← files.read path with
  | .ok text => return ofText text
  | .error error => return .error (.file error)

/-- The settings of a directory: those of its settings file, or else the default ones. -/
def discover (directory : String) : m (Except ConfigError Config) := do
  let path := Path.join directory fileName
  if ← files.isFile path then read files path else return .ok default

end Config

end ModContracts
