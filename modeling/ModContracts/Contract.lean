import ModContracts.Requirement

/-!
# Contracts

What each tag demands of the declarations that carry it, as a list of requirements.

* `Requirement` — a requirement as data, checked by `Context.checkRequirement`;
* `Tag.contract` — the requirements of a tag, in the order in which they are checked;
* `Context.ensureProxyClasses`, `Context.ensureInstanceType` — the two requirements that look into
  the values of the tag's own attachment.
-/

namespace ModContracts

namespace Context

variable (cx : Context)

/-- A field that names no other mod in `value` holds the mod it is declared in. -/
def ensureInstanceType (d : DeclId) : Check Unit := do
  let a ← cx.tagAttachment d .modInstance
  let attached ← Check.ask (cx.program.attachment a)
  if (attached.str? "value").getD "" ≠ "" then return
  let owner ← Check.ask (cx.program.ownerOf d)
  let type ← Check.ask (cx.program.typeOf owner)
  cx.ensureAssignable d type
  cx.ensureSame d type

/-- The values of a proxy that name its classes, one for each side of the game. -/
def proxySides : List String := ["clientSide", "serverSide"]

/-- The sides for which an attachment names a class. -/
def namedSides (attached : Attachment) : List String :=
  proxySides.filter fun side => (attached.str? side).getD "" ≠ ""

/-- The sides whose class is known, with that class; the others are reported. -/
def resolveSides (d : DeclId) (a : AttachmentId) : List String → Check (List (String × TypeId))
  | [] => return []
  | side :: rest => do
    let found ← cx.ensureClassExists d a side
    let others ← resolveSides d a rest
    return match found with
      | some type => (side, type) :: others
      | none => others

/-- Every class a proxy names is known, fits the field, and has a public constructor without
parameters if the program declares it. -/
def ensureProxyClasses (d : DeclId) : Check Unit := do
  let a ← cx.tagAttachment d .sidedProxy
  let attached ← Check.ask (cx.program.attachment a)
  let resolved ← cx.resolveSides d a (namedSides attached)
  resolved.forM fun (_, type) => cx.ensureAssignable d type
  resolved.forM fun (side, type) =>
    match cx.program.introducing? type with
    | some proxy => cx.ensureConstructor proxy [] (some (.value d a side))
    | none => return

end Context

/-- A requirement on a declaration. -/
inductive Requirement where
  /-- The modifier is there exactly when required. -/
  | modifier (m : Modifier) (required : Bool)
  /-- A declaration inside another one is static. -/
  | staticIfNested
  /-- There is a public constructor without parameters. -/
  | plainConstructor
  /-- The declaration around it carries a tag. -/
  | ownerCarries (tag : Tag)
  /-- It takes parameters of the given types. -/
  | parameters (types : List Designated)
  /-- It returns the given type. -/
  | returns (type : Designated)
  /-- It returns the type it is declared in. -/
  | returnsOwner
  /-- So many members beside it, itself included, carry a tag. -/
  | elementCount (tag : Tag) (low high : Nat)
  /-- It can hold a value of the given type. -/
  | holds (type : Designated)
  /-- It is a subtype of the given type. -/
  | instanceOf (type : Designated)
  /-- It holds the mod it is declared in, unless it names another one. -/
  | instanceType
  /-- Its proxy classes fit. -/
  | proxyClasses
  deriving DecidableEq, Repr

/-- Checks a requirement on a declaration. -/
def Context.checkRequirement (cx : Context) (d : DeclId) : Requirement → Check Unit
  | .modifier m required => cx.ensureModifier d m required
  | .staticIfNested => do
    match ← Check.ask (cx.program.enclosingOf d) with
    | some _ => cx.ensureModifier d .isStatic true
    | none => return
  | .plainConstructor => cx.ensureConstructor d [] none
  | .ownerCarries tag => cx.ensureOwnerCarries d tag
  | .parameters types => cx.ensureParameters d (types.map cx.framework.typeOf)
  | .returns type => cx.ensureReturn d (cx.framework.typeOf type)
  | .returnsOwner => do
    let owner ← Check.ask (cx.program.ownerOf d)
    let type ← Check.ask (cx.program.typeOf owner)
    cx.ensureReturn d type
  | .elementCount tag low high => cx.ensureElementCount d tag low high
  | .holds type => cx.ensureAssignable d (cx.framework.typeOf type)
  | .instanceOf type => cx.ensureInstanceOf d (cx.framework.typeOf type)
  | .instanceType => cx.ensureInstanceType d
  | .proxyClasses => cx.ensureProxyClasses d

/-- The requirements of a tag, in the order in which they are checked. -/
def Tag.contract : Tag → List Requirement
  | .mod =>
    [.modifier .isPublic true, .modifier .isAbstract false, .staticIfNested, .plainConstructor]
  | .eventHandler =>
    [.ownerCarries .mod, .modifier .isPublic true, .modifier .isStatic false,
      .parameters [.fmlEvent], .returns .void]
  | .modInstance =>
    [.ownerCarries .mod, .modifier .isPublic true, .modifier .isStatic true,
      .modifier .isFinal false, .instanceType]
  | .metadata =>
    [.modifier .isPublic true, .modifier .isStatic false, .modifier .isFinal false,
      .holds .modMetadata]
  | .instanceFactory =>
    [.ownerCarries .mod, .modifier .isPublic true, .modifier .isStatic true, .parameters [],
      .returnsOwner, .elementCount .instanceFactory 1 1]
  | .sidedProxy =>
    [.ownerCarries .mod, .modifier .isPublic true, .modifier .isStatic true,
      .modifier .isFinal false, .proxyClasses]
  | .subscribeEvent =>
    [.modifier .isPublic true, .modifier .isStatic false, .modifier .isFinal false,
      .parameters [.event]]
  | .cancelable => [.instanceOf .event]
  | .hasResult => [.instanceOf .event]
  | .networkCheckHandler =>
    [.modifier .isPublic true, .returns .boolean, .parameters [.string, .side]]

end ModContracts
