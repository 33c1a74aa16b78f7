import ModContracts.Profile
import ModContracts.Toml.Document

/-!
# Settings

* `Config` — the settings of a run; `Config.default` — those without a settings file;
* `Config.ofToml?` — the settings of a file: tables `framework` and `report`, each of which may also
  be a list of its settings in order;
* `Config.profile` — the framework profile the settings choose.
-/

namespace ModContracts

/-- The settings of a run. -/
structure Config where
  /-- The release the program is built against. -/
  release : Release := .default
  /-- A package root in the place of the release's own. -/
  package? : Option String := none
  /-- Whether warnings fail a run. -/
  denyWarnings : Bool := false
  /-- Whether reports are coloured. -/
  color : Bool := true
  deriving DecidableEq, Repr

namespace Config

/-- The settings without a settings file. -/
def default : Config := {}

/-- The name of a settings file. -/
def fileName : String := "forgecheck.toml"

/-- The profile the settings choose: a package root of its own comes before the release. -/
def profile (c : Config) : Profile :=
  match c.package? with
  | some root => ⟨root⟩
  | none => c.release.profile

/-- A string. -/
def readText? : Toml.Value → Option String
  | .string text => some text
  | _ => none

/-- A truth value. -/
def readFlag? : Toml.Value → Option Bool
  | .boolean value => some value
  | _ => none

/-- A release: its name, or a table with nothing under its name. -/
def readRelease? : Toml.Value → Option Release
  | .string name => Release.ofName? name
  | .table _ [(name, .table _ [])] | .table _ [(name, .array _ [])] => Release.ofName? name
  | _ => none

/-- Reads the settings of a table by name, or those of a list in the order of `fields`. -/
def readSection? (fields : List String) (set : Config → String → Toml.Value → Option Config)
    (c : Config) : Toml.Value → Option Config
  | .table _ entries =>
    entries.foldlM (fun acc (key, value) => if key ∈ fields then set acc key value else none) c
  | .array _ items =>
    (fields.zip items).foldlM (fun acc (key, value) => set acc key value) c
  | _ => none

/-- A setting of the table `framework`. -/
def setFramework? (c : Config) (key : String) (value : Toml.Value) : Option Config :=
  match key with
  | "profile" => (readRelease? value).map fun release => { c with release }
  | _ => (readText? value).map fun root => { c with package? := some root }

/-- A setting of the table `report`. -/
def setReport? (c : Config) (key : String) (value : Toml.Value) : Option Config :=
  match key with
  | "deny_warnings" => (readFlag? value).map fun denyWarnings => { c with denyWarnings }
  | _ => (readFlag? value).map fun color => { c with color }

/-- The settings of a file. -/
def ofToml? (text : String) : Option Config := do
  let entries ← Toml.parse text
  entries.foldlM (fun c (key, value) =>
    match key with
    | "framework" => readSection? ["profile", "package"] setFramework? c value
    | "report" => readSection? ["deny_warnings", "color"] setReport? c value
    | _ => none) default

end Config

end ModContracts
