/-!
# Framework profiles

The classes of the mod loader sit below a package root that differs between its releases and in
repackaged copies. Every name the rules know is derived from that root.

* `Profile` — the package root;
* `Release` — the named releases, each with its root;
* `Profile.fmlEvent`, `Profile.event`, `Profile.modMetadata`, `Profile.side` — the designated types.
-/

namespace ModContracts

/-- Where the framework's classes live. -/
structure Profile where
  /-- The package root. -/
  root : String
  deriving DecidableEq, Repr

namespace Profile

/-- A name below the common package of the loader. -/
def common (p : Profile) (path : String) : String :=
  p.root ++ ".fml.common." ++ path

/-- A name below the package of the loader. -/
def fml (p : Profile) (path : String) : String :=
  p.root ++ ".fml." ++ path

/-- The base class of life cycle events. -/
def fmlEvent (p : Profile) : String := p.common "event.FMLEvent"

/-- The base class of bus events. -/
def event (p : Profile) : String := p.common "eventhandler.Event"

/-- The class that describes a mod. -/
def modMetadata (p : Profile) : String := p.common "ModMetadata"

/-- The two sides of the game. -/
def side (p : Profile) : String := p.fml "relauncher.Side"

end Profile

/-- A named release of the framework. -/
inductive Release where
  | forge17
  | forge18
  deriving DecidableEq, Repr

namespace Release

/-- Every named release. -/
def all : List Release := [.forge17, .forge18]

/-- The release assumed when none is named. -/
def default : Release := .forge18

/-- The name of a release. -/
def name : Release → String
  | .forge17 => "forge-1.7"
  | .forge18 => "forge-1.8"

/-- The profile of a release. -/
def profile : Release → Profile
  | .forge17 => ⟨"cpw.mods"⟩
  | .forge18 => ⟨"net.minecraftforge"⟩

/-- The release of a name. -/
def ofName? (word : String) : Option Release :=
  all.find? (·.name = word)

/-- What is said about a name that is no release's. -/
def unknownMessage (word : String) : String :=
  s!"unknown framework profile `{word}` (expected forge-1.7 or forge-1.8)"

end Release

/-- The profile of the default release. -/
def Profile.default : Profile := Release.default.profile

end ModContracts
