import ModContracts.Kind
import ModContracts.Modifier
import ModContracts.Primitive
import ModContracts.Value

/-!
# Programs

A program: the types it knows, its declarations with their members, and the attachments on them.
Ids are positions, given out in order of creation from zero. Beside the three tables a program
keeps indexes: ids by type name, the declaration that introduces a type, and the declarations that
carry an annotation type.

* `Program` — the tables and indexes; `Program.initial` holds the eleven built-in types;
* `ProgramFault` — why a query has no answer, with its `message`;
* `Program.declaration`, `Program.attachment` and the queries built on them.
-/

namespace ModContracts

/-- What sort of type an id stands for. -/
inductive TypeKind where
  | void
  | primitive (p : Primitive)
  /-- A class, interface, enum or annotation type. -/
  | declared
  deriving DecidableEq, Repr

/-- A type of a program. -/
structure TypeEntry where
  /-- The canonical name: qualified for declared types, else the keyword. -/
  name : String
  /-- What sort of type it is. -/
  kind : TypeKind
  /-- The declared supertypes, each once. -/
  supertypes : List TypeId := []
  deriving DecidableEq, Repr

/-- A declaration of a program. -/
structure Declaration where
  kind : Kind
  /-- The simple name. -/
  name : String
  /-- The type a declaration introduces, or the type of a field. -/
  type? : Option TypeId := none
  modifiers : ModifierSet
  /-- The declaration around this one. -/
  enclosing? : Option DeclId := none
  /-- The declarations directly inside this one, in declaration order. -/
  members : List DeclId := []
  /-- The parameter types of a method or constructor. -/
  parameters : List TypeId := []
  /-- The return type of a method. -/
  returns? : Option TypeId := none
  /-- The attachments on the declaration, in order. -/
  attachments : List AttachmentId := []
  location? : Option Location := none
  deriving DecidableEq, Repr

/-- A program. -/
structure Program where
  /-- The known types. -/
  types : List TypeEntry := []
  /-- The id of each type name. -/
  typeIds : Keyed String TypeId := []
  /-- The declaration that introduces a type. -/
  introducedBy : Keyed TypeId DeclId := []
  declarations : List Declaration := []
  attachments : List Attachment := []
  /-- The declarations that carry an annotation type. -/
  carriers : Keyed TypeId (List DeclId) := []

/-- The part of a dotted name after its last dot. -/
def lastSegment (name : String) : String :=
  String.ofList (name.toList.reverse.takeWhile (· ≠ '.')).reverse

/-! ## Faults -/

/-- Why a query about a program has no answer. -/
inductive ProgramFault where
  | unknownDeclaration (id : DeclId)
  | unknownAttachment (id : AttachmentId)
  | unknownType (id : TypeId)
  /-- The declaration neither introduces a type nor is a field. -/
  | noDeclaredType (kind : Kind) (name : String)
  /-- The declaration takes no parameters. -/
  | notExecutable (kind : Kind) (name : String)
  /-- The declaration is not inside another one. -/
  | noEnclosing (kind : Kind) (name : String)
  deriving DecidableEq, Repr

/-- The text of a fault. -/
def ProgramFault.message : ProgramFault → String
  | .unknownDeclaration id => s!"unknown declaration {id}"
  | .unknownAttachment id => s!"unknown attachment {id}"
  | .unknownType id => s!"unknown type {id}"
  | .noDeclaredType kind name => s!"{kind.phrase} `{name}` has no declared type"
  | .notExecutable kind name => s!"{kind.phrase} `{name}` is not a method or constructor"
  | .noEnclosing kind name => s!"{kind.phrase} `{name}` has no enclosing declaration"

/-- The answer to a query about a program. -/
abbrev Answer (α : Type) := Except ProgramFault α

/-! ## The built-in types -/

/-- The id of `void`. -/
def TypeId.void : TypeId := 0

/-- The id of the root of all declared types. -/
def TypeId.object : TypeId := 9

/-- The name of the root of all declared types. -/
def objectName : String := "java.lang.Object"

/-- The name of the string class. -/
def stringName : String := "java.lang.String"

/-- The types every program knows, in id order. -/
def builtinTypes : List TypeEntry :=
  ⟨"void", .void, []⟩ :: Primitive.all.map (fun p => ⟨p.name, .primitive p, []⟩) ++
    [⟨objectName, .declared, []⟩, ⟨stringName, .declared, []⟩]

/-- The built-in types in id order, and the ids of their names. -/
def Program.initial : Program where
  types := builtinTypes
  typeIds := builtinTypes.zipIdx.map fun (entry, id) => (entry.name, id)

namespace Program

variable (p : Program)

/-! ## Types -/

/-- The id of a type name. -/
def typeId? (name : String) : Option TypeId :=
  p.typeIds.find? name

/-- The name of a type. -/
def typeName (t : TypeId) : Answer String :=
  match p.types[t]? with
  | some entry => .ok entry.name
  | none => .error (.unknownType t)

/-- The last segment of a type's name. -/
def simpleTypeName (t : TypeId) : Answer String :=
  (p.typeName t).map lastSegment

/-- What sort of type an id stands for, if the program knows it. -/
def typeKind? (t : TypeId) : Option TypeKind :=
  p.types[t]?.map TypeEntry.kind

/-- The declaration that introduces a type. -/
def introducing? (t : TypeId) : Option DeclId :=
  p.introducedBy.find? t

/-! ## Declarations -/

/-- The declaration behind an id. -/
def declaration (d : DeclId) : Answer Declaration :=
  match p.declarations[d]? with
  | some decl => .ok decl
  | none => .error (.unknownDeclaration d)

/-- The kind of a declaration. -/
def kindOf (d : DeclId) : Answer Kind :=
  (p.declaration d).map Declaration.kind

/-- The simple name of a declaration. -/
def nameOf (d : DeclId) : Answer String :=
  (p.declaration d).map Declaration.name

/-- The modifiers of a declaration. -/
def modifiersOf (d : DeclId) : Answer ModifierSet :=
  (p.declaration d).map Declaration.modifiers

/-- The declaration around a declaration, if there is one. -/
def enclosingOf (d : DeclId) : Answer (Option DeclId) :=
  (p.declaration d).map Declaration.enclosing?

/-- The members of a declaration, in declaration order. -/
def membersOf (d : DeclId) : Answer (List DeclId) :=
  (p.declaration d).map Declaration.members

/-- The attachments on a declaration, in order. -/
def attachmentsOf (d : DeclId) : Answer (List AttachmentId) :=
  (p.declaration d).map Declaration.attachments

/-- The type a declaration introduces, or the type of a field. -/
def typeOf (d : DeclId) : Answer TypeId := do
  let decl ← p.declaration d
  match decl.type? with
  | some t => .ok t
  | none => .error (.noDeclaredType decl.kind decl.name)

/-- A declaration that takes parameters. -/
def executable (d : DeclId) : Answer Declaration := do
  let decl ← p.declaration d
  if decl.kind.isExecutable then .ok decl else .error (.notExecutable decl.kind decl.name)

/-- The parameter types of a method or constructor. -/
def parametersOf (d : DeclId) : Answer (List TypeId) :=
  (p.executable d).map Declaration.parameters

/-- The return type of a method; a constructor returns `void`. -/
def returnTypeOf (d : DeclId) : Answer TypeId :=
  (p.executable d).map fun decl => decl.returns?.getD TypeId.void

/-- The declaration that a declaration must be inside of. -/
def ownerOf (d : DeclId) : Answer DeclId := do
  let decl ← p.declaration d
  match decl.enclosing? with
  | some owner => .ok owner
  | none => .error (.noEnclosing decl.kind decl.name)

/-- The kind and name of a declaration, as messages begin with them. -/
def describe (d : DeclId) : Answer String :=
  (p.declaration d).map fun decl => s!"{decl.kind.label} {decl.name}"

/-- Where a declaration was written. -/
def locationOf? (d : DeclId) : Option Location :=
  p.declarations[d]?.bind Declaration.location?

/-! ## Attachments -/

/-- The attachment behind an id. -/
def attachment (a : AttachmentId) : Answer Attachment :=
  match p.attachments[a]? with
  | some attached => .ok attached
  | none => .error (.unknownAttachment a)

/-- The first of some attachments that is of an annotation type. -/
def firstOfType (type : TypeId) : List AttachmentId → Answer (Option AttachmentId)
  | [] => .ok none
  | a :: rest => do
    let attached ← p.attachment a
    if attached.type = type then .ok (some a) else firstOfType type rest

/-- The first attachment of an annotation type on a declaration. -/
def findAttachment (d : DeclId) (type : TypeId) : Answer (Option AttachmentId) := do
  p.firstOfType type (← p.attachmentsOf d)

/-- Whether a declaration carries an attachment of an annotation type. -/
def hasAttachment (d : DeclId) (type : TypeId) : Answer Bool :=
  (p.findAttachment d type).map Option.isSome

/-- The declarations that carry an annotation type, in the order in which they came to. -/
def carriersOf (type : TypeId) : List DeclId :=
  (p.carriers.find? type).getD []

end Program

end ModContracts
