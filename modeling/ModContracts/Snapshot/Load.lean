import ModContracts.Snapshot
import ModContracts.Program.Build

/-!
# Loading snapshots

The program a snapshot describes. All types are registered before any name is looked up, so a
declaration may refer to types named after it.

* `LoadError` — why a snapshot describes no program, with its `message`;
* `DeclSpec.shapeError?` — what a single declaration may not write;
* `Snapshot.load` — the program of a snapshot, or the first error.
-/

namespace ModContracts

/-! ## Errors -/

/-- A part of a declaration that not every kind may write. -/
inductive Part where
  | type
  | parameters
  | returns
  | supertypes
  | members
  deriving DecidableEq, Repr

/-- The word for a part of a declaration. -/
def Part.word : Part → String
  | .type => "type"
  | .parameters => "parameters"
  | .returns => "returns"
  | .supertypes => "supertypes"
  | .members => "members"

/-- Why a snapshot describes no program. -/
inductive LoadError where
  | unknownType (name : String)
  | duplicateType (name : String)
  /-- A declaration writes a part that its kind has not. -/
  | misplaced (kind : Kind) (name : String) (part : Part)
  | missingFieldType (name : String)
  /-- A member stands outside of every type. -/
  | orphanMember (kind : Kind) (name : String)
  deriving DecidableEq, Repr

/-- The text of an error. -/
def LoadError.message : LoadError → String
  | .unknownType name => s!"unknown type `{name}`"
  | .duplicateType name => s!"type `{name}` is declared more than once"
  | .misplaced kind name part => s!"{kind.phrase} `{name}` cannot declare `{part.word}`"
  | .missingFieldType name => s!"field `{name}` has no type"
  | .orphanMember kind name => s!"{kind.phrase} `{name}` must be declared inside a type"

/-- The result of loading. -/
abbrev Loaded (α : Type) := Except LoadError α

/-! ## Names and values -/

/-- The type of a name. -/
def Program.resolve (p : Program) (name : String) : Loaded TypeId :=
  match p.typeId? name with
  | some id => .ok id
  | none => .error (.unknownType name)

mutual

/-- The value a written value stands for. -/
def ValueSpec.load (p : Program) : ValueSpec → Loaded Value
  | .bool b => .ok (.bool b)
  | .int i => .ok (.int i)
  | .str s => .ok (.str s)
  | .classLiteral name => (p.resolve name).map .type
  | .nested type values _ _ => do
    let id ← p.resolve type
    let entries ← ValueSpec.loadEntries p values
    return .nested id entries
  | .list items => (ValueSpec.loadItems p items).map .list

/-- The values of a written list. -/
def ValueSpec.loadItems (p : Program) : List ValueSpec → Loaded (List Value)
  | [] => .ok []
  | spec :: rest => do
    let value ← ValueSpec.load p spec
    let values ← ValueSpec.loadItems p rest
    return value :: values

/-- The values of written entries. -/
def ValueSpec.loadEntries (p : Program) : List (String × ValueSpec) → Loaded (List (String × Value))
  | [] => .ok []
  | (name, spec) :: rest => do
    let value ← ValueSpec.load p spec
    let entries ← ValueSpec.loadEntries p rest
    return (name, value) :: entries

end

/-! ## Types -/

/-- The first name that stands for two types. -/
def firstDuplicate? : List String → List String → Option String
  | _, [] => none
  | seen, name :: rest =>
    if name ∈ seen then some name else firstDuplicate? (name :: seen) rest

/-- Registers type names. -/
def Program.registerAll (p : Program) (names : List String) : Program :=
  names.foldl (fun acc name => (acc.register name .declared).1) p

/-- Adds the supertypes written for a type. -/
def Program.loadSupertypes (p : Program) (type : TypeId) : List String → Loaded Program
  | [] => .ok p
  | name :: rest => do
    let super ← p.resolve name
    (p.addSupertype type super).loadSupertypes type rest

/-- Adds the supertypes written for some types. -/
def Program.loadAllSupertypes (p : Program) : List (String × List String) → Loaded Program
  | [] => .ok p
  | (name, supertypes) :: rest => do
    let type ← p.resolve name
    let q ← p.loadSupertypes type supertypes
    q.loadAllSupertypes rest

/-- A program that knows the types of a snapshot. -/
def Snapshot.loadTypes (s : Snapshot) : Loaded Program :=
  let named := s.namedTypes
  match firstDuplicate? [] (named.map Prod.fst) with
  | some name => .error (.duplicateType name)
  | none => (Program.initial.registerAll (named.map Prod.fst)).loadAllSupertypes named

/-! ## Declarations -/

/-- The first part that is written although the kind has no such part. -/
def DeclSpec.firstMisplaced? (spec : DeclSpec) (parts : List (Part × Bool)) : Option LoadError :=
  (parts.find? (·.2)).map fun found => .misplaced spec.kind spec.name found.1

/-- What is wrong with the parts a declaration writes: each kind has its own. -/
def DeclSpec.shapeError? (spec : DeclSpec) (nested : Bool) : Option LoadError :=
  let type := (Part.type, spec.type?.isSome)
  let parameters := (Part.parameters, ! spec.parameters.isEmpty)
  let returns := (Part.returns, spec.returns?.isSome)
  let supertypes := (Part.supertypes, ! spec.supertypes.isEmpty)
  let members := (Part.members, ! spec.members.isEmpty)
  if spec.kind.isType then spec.firstMisplaced? [type, parameters, returns]
  else
    (spec.firstMisplaced? [supertypes, members]).or <|
      if ! nested then some (.orphanMember spec.kind spec.name)
      else match spec.kind with
        | .method => spec.firstMisplaced? [type]
        | .constructor => spec.firstMisplaced? [returns, type]
        | _ =>
          (spec.firstMisplaced? [parameters, returns]).or <|
            if spec.type?.isNone then some (.missingFieldType spec.name) else none

/-- Adds a declaration without what is inside it and on it. -/
def DeclSpec.loadHead (spec : DeclSpec) (p : Program) (enclosing? : Option DeclId) :
    Loaded (Program × DeclId) := do
  let modifiers := ModifierSet.ofList spec.modifiers
  match spec.shapeError? enclosing?.isSome, spec.kind, enclosing? with
  | some error, _, _ => throw error
  | none, .method, some owner =>
    let parameters ← spec.parameters.mapM p.resolve
    let returns ← p.resolve (spec.returns?.getD "void")
    return p.declareMethod owner spec.name modifiers parameters returns
  | none, .constructor, some owner =>
    let parameters ← spec.parameters.mapM p.resolve
    return p.declareConstructor owner modifiers parameters
  | none, .field, some owner =>
    let type ← p.resolve (spec.type?.getD "")
    return p.declareField owner spec.name modifiers type
  | none, kind, _ =>
    let type ← p.resolve spec.name
    return p.declareTypeOf kind type modifiers enclosing?

/-- Adds the annotations written on a declaration. -/
def Program.loadAttachments (p : Program) (d : DeclId) : List AttachmentSpec → Loaded Program
  | [] => .ok p
  | spec :: rest => do
    let type ← p.resolve spec.type
    let values ← ValueSpec.loadEntries p spec.values
    let (q, a) := p.attach d type values
    (q.setAttachmentLocation a spec.location? spec.valueLocations).loadAttachments d rest

mutual

/-- Adds a declaration with everything on it and then everything inside it. -/
def DeclSpec.load (p : Program) (enclosing? : Option DeclId) : DeclSpec → Loaded Program
  | ⟨kind, name, modifiers, supertypes, type?, parameters, returns?, attachments, members,
      location?⟩ => do
    let spec : DeclSpec := ⟨kind, name, modifiers, supertypes, type?, parameters, returns?,
      attachments, members, location?⟩
    let (added, d) ← spec.loadHead p enclosing?
    let placed := match location? with
      | some location => added.setLocation d location
      | none => added
    let annotated ← placed.loadAttachments d attachments
    DeclSpec.loadAll annotated (some d) members

/-- Adds declarations in order. -/
def DeclSpec.loadAll (p : Program) (enclosing? : Option DeclId) : List DeclSpec → Loaded Program
  | [] => .ok p
  | spec :: rest => do
    let q ← DeclSpec.load p enclosing? spec
    DeclSpec.loadAll q enclosing? rest

end

/-- The program a snapshot describes. -/
def Snapshot.load (s : Snapshot) : Loaded Program := do
  let p ← s.loadTypes
  DeclSpec.loadAll p none s.declarations

end ModContracts
