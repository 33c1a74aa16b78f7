import ModContracts.Program

/-!
# Building programs

A program grows by edits, each of which hands out the id of what it adds.

* `Program.register`, `Program.declareType`, `Program.addSupertype` — types;
* `Program.declare`, `Program.declareTypeOf` and the members built on them — declarations;
* `Program.attach` — attachments; `Program.setLocation`, `Program.setAttachmentLocation`;
* `Edit` — the edits as data, `Edit.allowed` — whether the ids an edit names are there;
* `Program.apply`, `Program.applyAll` — programs from edits; one that is not allowed is refused.
-/

namespace ModContracts

namespace Program

variable (p : Program)

/-! ## Types -/

/-- The id of a name, which becomes a new type of the given kind if the name is new. -/
def register (name : String) (kind : TypeKind) : Program × TypeId :=
  match p.typeId? name with
  | some id => (p, id)
  | none =>
    let id := p.types.length
    ({ p with
        types := p.types ++ [⟨name, kind, []⟩]
        typeIds := p.typeIds.put name id },
      id)

/-- Adds a supertype to a type, unless it is there already or the type is unknown. -/
def addSupertype (type super : TypeId) : Program :=
  { p with types := p.types.modify type fun entry =>
      if super ∈ entry.supertypes then entry
      else { entry with supertypes := entry.supertypes ++ [super] } }

/-- Adds supertypes to a type, in order. -/
def addSupertypes (type : TypeId) (supers : List TypeId) : Program :=
  supers.foldl (fun acc super => acc.addSupertype type super) p

/-- The id of a name, with supertypes added. -/
def declareType (name : String) (supers : List TypeId) : Program × TypeId :=
  let (q, id) := p.register name .declared
  (q.addSupertypes id supers, id)

/-! ## Declarations -/

/-- Adds a declaration, and lists it with the members of the declaration around it. -/
def declare (decl : Declaration) : Program × DeclId :=
  let id := p.declarations.length
  let grown := p.declarations ++ [decl]
  let listed := match decl.enclosing? with
    | none => grown
    | some owner => grown.modify owner fun around => { around with members := around.members ++ [id] }
  ({ p with declarations := listed }, id)

/-- Declares a type that the program knows. The declaration is named by the last segment of the
type's name. -/
def declareTypeOf (kind : Kind) (type : TypeId) (modifiers : ModifierSet)
    (enclosing? : Option DeclId) : Program × DeclId :=
  let name := match p.types[type]? with
    | some entry => lastSegment entry.name
    | none => ""
  let (q, id) := p.declare { kind, name, type? := some type, modifiers, enclosing? }
  ({ q with introducedBy := q.introducedBy.put type id }, id)

/-- Declares a class, inside another declaration if one is given; its name is qualified. -/
def declareClass (owner? : Option DeclId) (name : String) (supers : List TypeId)
    (modifiers : ModifierSet) : Program × DeclId :=
  let (q, type) := p.declareType name supers
  q.declareTypeOf .classType type modifiers owner?

/-- Declares a method. -/
def declareMethod (owner : DeclId) (name : String) (modifiers : ModifierSet)
    (parameters : List TypeId) (returns : TypeId) : Program × DeclId :=
  p.declare { kind := .method, name, modifiers, enclosing? := some owner, parameters,
              returns? := some returns }

/-- The name of every constructor. -/
def constructorName : String := "<init>"

/-- Declares a constructor. -/
def declareConstructor (owner : DeclId) (modifiers : ModifierSet) (parameters : List TypeId) :
    Program × DeclId :=
  p.declare { kind := .constructor, name := constructorName, modifiers,
              enclosing? := some owner, parameters }

/-- Declares a field. -/
def declareField (owner : DeclId) (name : String) (modifiers : ModifierSet) (type : TypeId) :
    Program × DeclId :=
  p.declare { kind := .field, name, type? := some type, modifiers, enclosing? := some owner }

/-- Sets where a declaration was written. -/
def setLocation (d : DeclId) (location : Location) : Program :=
  { p with declarations := p.declarations.modify d fun decl =>
      { decl with location? := some location } }

/-! ## Attachments -/

/-- Lists a declaration with those that carry an annotation type, unless it is the one listed
last. -/
def listCarrier (type : TypeId) (d : DeclId) : Program :=
  let listed := p.carriersOf type
  if listed.getLast? = some d then p
  else { p with carriers := p.carriers.put type (listed ++ [d]) }

/-- Attaches an annotation to a declaration. -/
def attach (d : DeclId) (type : TypeId) (values : Keyed String Value) : Program × AttachmentId :=
  let id := p.attachments.length
  let q : Program := { p with
    attachments := p.attachments ++ [{ owner := d, type, values }]
    declarations := p.declarations.modify d fun decl =>
      { decl with attachments := decl.attachments ++ [id] } }
  (q.listCarrier type d, id)

/-- Sets where an attachment was written, and adds where some of its values were. -/
def setAttachmentLocation (a : AttachmentId) (location? : Option Location)
    (valueLocations : List (String × Location)) : Program :=
  { p with attachments := p.attachments.modify a fun attached =>
      { attached with
        location?
        valueLocations := attached.valueLocations.putAll valueLocations } }

end Program

/-! ## Edits as data -/

/-- One step in building a program. -/
inductive Edit where
  | declareType (name : String) (supers : List TypeId)
  | addSupertype (type super : TypeId)
  | declareTypeOf (kind : Kind) (type : TypeId) (modifiers : ModifierSet)
      (enclosing? : Option DeclId)
  | declareClass (owner? : Option DeclId) (name : String) (supers : List TypeId)
      (modifiers : ModifierSet)
  | declareMethod (owner : DeclId) (name : String) (modifiers : ModifierSet)
      (parameters : List TypeId) (returns : TypeId)
  | declareConstructor (owner : DeclId) (modifiers : ModifierSet) (parameters : List TypeId)
  | declareField (owner : DeclId) (name : String) (modifiers : ModifierSet) (type : TypeId)
  | attach (d : DeclId) (type : TypeId) (values : Keyed String Value)
  | setLocation (d : DeclId) (location : Location)
  | setAttachmentLocation (a : AttachmentId) (location? : Option Location)
      (valueLocations : List (String × Location))

/-- The id an edit hands out. -/
inductive Handle where
  | type (id : TypeId)
  | declaration (id : DeclId)
  | attachment (id : AttachmentId)
  /-- The edit hands out no id. -/
  | nothing
  deriving DecidableEq, Repr

/-- Whether the declarations, attachments and declared types that an edit builds on are there. The
declaration around a new one may be the new one itself. -/
def Edit.allowed (p : Program) : Edit → Bool
  | .declareType .. | .addSupertype .. => true
  | .declareTypeOf _ type _ enclosing? =>
    type < p.types.length && enclosing?.all (· ≤ p.declarations.length)
  | .declareClass owner? .. => owner?.all (· ≤ p.declarations.length)
  | .declareMethod owner .. | .declareConstructor owner .. | .declareField owner .. =>
    owner ≤ p.declarations.length
  | .attach d .. | .setLocation d _ => d < p.declarations.length
  | .setAttachmentLocation a .. => a < p.attachments.length

/-- The program after an edit, and the id handed out. -/
def Program.perform (p : Program) : Edit → Program × Handle
  | .declareType name supers => (p.declareType name supers).map id .type
  | .addSupertype type super => (p.addSupertype type super, .nothing)
  | .declareTypeOf kind type modifiers enclosing? =>
    (p.declareTypeOf kind type modifiers enclosing?).map id .declaration
  | .declareClass owner? name supers modifiers =>
    (p.declareClass owner? name supers modifiers).map id .declaration
  | .declareMethod owner name modifiers parameters returns =>
    (p.declareMethod owner name modifiers parameters returns).map id .declaration
  | .declareConstructor owner modifiers parameters =>
    (p.declareConstructor owner modifiers parameters).map id .declaration
  | .declareField owner name modifiers type =>
    (p.declareField owner name modifiers type).map id .declaration
  | .attach d type values => (p.attach d type values).map id .attachment
  | .setLocation d location => (p.setLocation d location, .nothing)
  | .setAttachmentLocation a location? valueLocations =>
    (p.setAttachmentLocation a location? valueLocations, .nothing)

/-- Carries out an edit, or refuses it. -/
def Program.apply (p : Program) (e : Edit) : Option (Program × Handle) :=
  if e.allowed p then some (p.perform e) else none

/-- Carries out edits in order, unless one of them is refused. -/
def Program.applyAll (p : Program) : List Edit → Option Program
  | [] => some p
  | e :: rest => do
    let (q, _) ← p.apply e
    q.applyAll rest

end ModContracts
