import ModContracts.Program.Subtyping
import ModContracts.Diagnostic.Collection
import ModContracts.Tag

/-!
# The framework in a program

Before a round, the names a profile gives are resolved in the program. The designated types must be
there; a tag whose annotation type is not there cannot be carried by anything.

* `Designated` — the types the rules refer to;
* `Framework.resolve` — the ids of all names under a profile, or the first that is missing;
* `CheckFault` — why checking stops; `Check` — checks that report diagnostics and may stop;
* `Context` — what a check reads, with the questions about tags that rules ask.
-/

namespace ModContracts

/-! ## Faults and checks -/

/-- Why checking stops. What is wrong with the checked program is reported, and is no fault. -/
inductive CheckFault where
  /-- A designated type is not in the program. -/
  | missingFrameworkType (name : String)
  /-- A tag sits on a declaration of a kind it does not accept. -/
  | unexpectedTarget (tag : Tag) (kind : Kind) (name : String)
  /-- A declaration does not carry the tag it is asked about. -/
  | missingAttachment (tag : Tag) (kind : Kind) (name : String)
  | program (fault : ProgramFault)
  deriving DecidableEq, Repr

/-- The text of a fault. -/
def CheckFault.message : CheckFault → String
  | .missingFrameworkType name => s!"framework type `{name}` is not present in the program model"
  | .unexpectedTarget tag kind name =>
    s!"@{tag.name} cannot be applied to {kind.phrase} `{name}`"
  | .missingAttachment tag kind name =>
    s!"{kind.phrase} `{name}` is listed as carrying @{tag.name} but has no such attachment"
  | .program fault => fault.message

/-- A check adds diagnostics to those reported before it, and either stops with a fault or goes
on with a result. -/
abbrev Check (α : Type) := ExceptT CheckFault (StateM Diagnostics) α

namespace Check

/-- Runs a check after earlier reports: its result and all reports. -/
def after (reports : Diagnostics) {α : Type} (c : Check α) : Except CheckFault α × Diagnostics :=
  (ExceptT.run c).run reports

/-- Reports a diagnostic. -/
def report (code : Code) (subject expected : String) (anchor : Anchor) : Check Unit :=
  modify fun reports => reports ++ [code.render subject expected anchor]

/-- Takes the answer to a query; a query without an answer is a fault. -/
def ask {α : Type} : Answer α → Check α
  | .ok a => pure a
  | .error fault => throw (.program fault)

end Check

/-! ## Designated types -/

/-- A type the rules refer to. -/
inductive Designated where
  | fmlEvent
  | event
  | modMetadata
  | side
  | string
  | void
  | boolean
  deriving DecidableEq, Repr

namespace Designated

/-- Every designated type, in the order in which they are looked up. -/
def all : List Designated :=
  [.fmlEvent, .event, .modMetadata, .side, .string, .void, .boolean]

/-- The name of a designated type under a profile. -/
def typeName (profile : Profile) : Designated → String
  | .fmlEvent => profile.fmlEvent
  | .event => profile.event
  | .modMetadata => profile.modMetadata
  | .side => profile.side
  | .string => stringName
  | .void => "void"
  | .boolean => "boolean"

end Designated

/-- The framework's types in one program. -/
structure Framework where
  profile : Profile
  /-- The annotation types of the tags; `none` for a tag that nothing can carry. -/
  tagType? : Tag → Option TypeId
  fmlEvent : TypeId
  event : TypeId
  modMetadata : TypeId
  side : TypeId
  string : TypeId
  void : TypeId
  boolean : TypeId

namespace Framework

/-- The id of a designated type. -/
def typeOf (f : Framework) : Designated → TypeId
  | .fmlEvent => f.fmlEvent
  | .event => f.event
  | .modMetadata => f.modMetadata
  | .side => f.side
  | .string => f.string
  | .void => f.void
  | .boolean => f.boolean

/-- The id of a designated type in a program. -/
def require (p : Program) (profile : Profile) (t : Designated) : Except CheckFault TypeId :=
  match p.typeId? (t.typeName profile) with
  | some id => .ok id
  | none => .error (.missingFrameworkType (t.typeName profile))

/-- Resolves the names of a profile. The first designated type that is missing is a fault. -/
def resolve (p : Program) (profile : Profile) : Except CheckFault Framework := do
  return {
    profile
    tagType? := fun tag => p.typeId? (tag.annotationName profile)
    fmlEvent := ← require p profile .fmlEvent
    event := ← require p profile .event
    modMetadata := ← require p profile .modMetadata
    side := ← require p profile .side
    string := ← require p profile .string
    void := ← require p profile .void
    boolean := ← require p profile .boolean }

end Framework

/-! ## Contexts -/

/-- What a check reads. -/
structure Context where
  program : Program
  framework : Framework

namespace Context

variable (cx : Context)

/-- The context of a program under a profile. -/
def ofProgram (p : Program) (profile : Profile) : Except CheckFault Context :=
  (Framework.resolve p profile).map fun framework => ⟨p, framework⟩

/-- The declarations that carry a tag. -/
def tagged (tag : Tag) : List DeclId :=
  match cx.framework.tagType? tag with
  | some type => cx.program.carriersOf type
  | none => []

/-- Whether a declaration carries a tag. -/
def carries (d : DeclId) (tag : Tag) : Answer Bool :=
  match cx.framework.tagType? tag with
  | some type => cx.program.hasAttachment d type
  | none => .ok false

/-- The attachment that puts a declaration under a tag. -/
def tagAttachment (d : DeclId) (tag : Tag) : Check AttachmentId := do
  let found ← match cx.framework.tagType? tag with
    | some type => Check.ask (cx.program.findAttachment d type)
    | none => pure none
  match found with
  | some a => return a
  | none =>
    let decl ← Check.ask (cx.program.declaration d)
    throw (.missingAttachment tag decl.kind decl.name)

end Context

end ModContracts
