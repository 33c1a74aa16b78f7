import ModContracts.Kind
import ModContracts.Profile

/-!
# Tags

The ten annotations of the mod loader whose use is checked.

* `Tag` — the tags, `Tag.all` in the order in which a round visits them;
* `Tag.annotationName` — the qualified name of the annotation under a profile;
* `Tag.accepts` — the kinds of declaration a tag may be put on.
-/

namespace ModContracts

/-- A recognised annotation. -/
inductive Tag where
  | mod
  | eventHandler
  | modInstance
  | metadata
  | instanceFactory
  | sidedProxy
  | subscribeEvent
  | cancelable
  | hasResult
  | networkCheckHandler
  deriving DecidableEq, Repr

namespace Tag

/-- Every tag, in the order in which a round visits them. -/
def all : List Tag :=
  [.mod, .eventHandler, .modInstance, .metadata, .instanceFactory, .sidedProxy,
    .subscribeEvent, .cancelable, .hasResult, .networkCheckHandler]

/-- The place of a tag in a round. -/
def index (t : Tag) : Nat :=
  all.idxOf t

/-- The simple name of a tag's annotation. -/
def name : Tag → String
  | .mod => "Mod"
  | .eventHandler => "EventHandler"
  | .modInstance => "Instance"
  | .metadata => "Metadata"
  | .instanceFactory => "InstanceFactory"
  | .sidedProxy => "SidedProxy"
  | .subscribeEvent => "SubscribeEvent"
  | .cancelable => "Cancelable"
  | .hasResult => "HasResult"
  | .networkCheckHandler => "NetworkCheckHandler"

/-- The name of a tag's annotation below the common package. -/
def path : Tag → String
  | .mod => "Mod"
  | .eventHandler => "Mod.EventHandler"
  | .modInstance => "Mod.Instance"
  | .metadata => "Mod.Metadata"
  | .instanceFactory => "Mod.InstanceFactory"
  | .sidedProxy => "SidedProxy"
  | .subscribeEvent => "eventhandler.SubscribeEvent"
  | .cancelable => "eventhandler.Cancelable"
  | .hasResult => "eventhandler.Event.HasResult"
  | .networkCheckHandler => "network.NetworkCheckHandler"

/-- The qualified name of a tag's annotation under a profile. -/
def annotationName (t : Tag) (profile : Profile) : String :=
  profile.common t.path

/-- Whether a tag may be put on a declaration of a kind. -/
def accepts : Tag → Kind → Bool
  | .mod, kind | .cancelable, kind | .hasResult, kind => kind.isType
  | .eventHandler, kind | .instanceFactory, kind | .subscribeEvent, kind
  | .networkCheckHandler, kind => kind = .method
  | .modInstance, kind | .metadata, kind | .sidedProxy, kind => kind = .field

/-- The tag of a simple name. -/
def ofName? (word : String) : Option Tag :=
  all.find? (·.name = word)

theorem mem_all (t : Tag) : t ∈ all := by
  cases t <;> decide

theorem nodup_all : all.Nodup := by
  decide

theorem getElem?_index (t : Tag) : all[t.index]? = some t := by
  cases t <;> rfl

end Tag

end ModContracts
