import ModContracts.Framework

/-!
# Requirements

The single facts that contracts are made of. A requirement that is not met is reported, and the
check goes on; it stops only where the program has no answer to a question.

* `ensureModifier`, `ensureConstructor`, `ensureParameters`, `ensureReturn`, `ensureInstanceOf`,
  `ensureAssignable`, `ensureSame`, `ensureOwnerCarries`, `ensureClassExists`,
  `ensureElementCount` — one fact each, at most one report each.
-/

namespace ModContracts

/-- What is wrong when a modifier is missing although required, or there although forbidden. Only
four modifiers matter, and forbidding `public` is no requirement. -/
def modifierCode? : Modifier → Bool → Option Code
  | .isPublic, true => some .nonPublic
  | .isStatic, true => some .nonStatic
  | .isStatic, false => some .isStatic
  | .isFinal, true => some .nonFinal
  | .isFinal, false => some .isFinal
  | .isAbstract, true => some .nonAbstract
  | .isAbstract, false => some .isAbstract
  | _, _ => none

namespace Context

variable (cx : Context)

/-- Reports a violation of a declaration. -/
def reportOn (d : DeclId) (code : Code) (expected : String) : Check Unit := do
  let subject ← Check.ask (cx.program.describe d)
  Check.report code subject expected (.declaration d)

/-- A declaration has a modifier when it is required, and does not have it otherwise. -/
def ensureModifier (d : DeclId) (m : Modifier) (required : Bool) : Check Unit := do
  let modifiers ← Check.ask (cx.program.modifiersOf d)
  if modifiers.has m = required then return
  match modifierCode? m required with
  | some code => cx.reportOn d code ""
  | none => return

/-! ## Signatures -/

/-- As many parameters as requested, each a subtype of the one requested at its place. -/
def signatureMatches (actual requested : List TypeId) : Bool :=
  actual.length = requested.length &&
    (actual.zip requested).all fun (a, r) => cx.program.isSubtype a r

/-- The qualified names of parameter types, in parentheses. -/
def signatureText (parameters : List TypeId) : Answer String :=
  (parameters.mapM cx.program.typeName).map fun names => "(" ++ ", ".intercalate names ++ ")"

/-- The first of some members that is a constructor with a matching signature. -/
def firstConstructor (parameters : List TypeId) : List DeclId → Answer (Option DeclId)
  | [] => .ok none
  | member :: rest => do
    let decl ← cx.program.declaration member
    if decl.kind = .constructor && cx.signatureMatches decl.parameters parameters then
      return some member
    else firstConstructor parameters rest

/-- A declaration has, directly inside it, a constructor for the given parameters, and the first
such constructor is public. Where a missing constructor is reported can be given. -/
def ensureConstructor (d : DeclId) (parameters : List TypeId) (anchor? : Option Anchor) :
    Check Unit := do
  let members ← Check.ask (cx.program.membersOf d)
  match ← Check.ask (cx.firstConstructor parameters members) with
  | some found => cx.ensureModifier found .isPublic true
  | none =>
    let subject ← Check.ask (cx.program.describe d)
    let expected ← Check.ask (cx.signatureText parameters)
    Check.report .missingConstructor subject expected (anchor?.getD (.declaration d))

/-- A method takes as many parameters as given, each of them a subtype of the given one. -/
def ensureParameters (d : DeclId) (parameters : List TypeId) : Check Unit := do
  let actual ← Check.ask (cx.program.parametersOf d)
  if cx.signatureMatches actual parameters then return
  let subject ← Check.ask (cx.program.describe d)
  let expected ← Check.ask (cx.signatureText parameters)
  Check.report .invalidParameters subject expected (.declaration d)

/-- A method returns exactly the given type. -/
def ensureReturn (d : DeclId) (type : TypeId) : Check Unit := do
  let actual ← Check.ask (cx.program.returnTypeOf d)
  if cx.program.isSameType actual type then return
  let subject ← Check.ask (cx.program.describe d)
  let expected ← Check.ask (cx.program.typeName type)
  Check.report .invalidReturn subject expected (.declaration d)

/-! ## Types -/

/-- The type of a declaration is a subtype of the given one. -/
def ensureInstanceOf (d : DeclId) (super : TypeId) : Check Unit := do
  let actual ← Check.ask (cx.program.typeOf d)
  if cx.program.isSubtype actual super then return
  let subject ← Check.ask (cx.program.describe d)
  let expected ← Check.ask (cx.program.simpleTypeName super)
  Check.report .notSubtype subject expected (.declaration d)

/-- A value of the given type can be assigned to a declaration. -/
def ensureAssignable (d : DeclId) (source : TypeId) : Check Unit := do
  let target ← Check.ask (cx.program.typeOf d)
  if cx.program.isAssignable source target then return
  let subject ← Check.ask (cx.program.describe d)
  let expected ← Check.ask (cx.program.simpleTypeName source)
  Check.report .notAssignable subject expected (.declaration d)

/-- The type of a declaration is the given one. Advice. -/
def ensureSame (d : DeclId) (type : TypeId) : Check Unit := do
  let actual ← Check.ask (cx.program.typeOf d)
  if cx.program.isSameType actual type then return
  let subject ← Check.ask (cx.program.describe d)
  let expected ← Check.ask (cx.program.simpleTypeName type)
  Check.report .notSame subject expected (.declaration d)

/-! ## Attachments -/

/-- The declaration around a declaration carries a tag. Advice. -/
def ensureOwnerCarries (d : DeclId) (tag : Tag) : Check Unit := do
  let owner ← Check.ask (cx.program.ownerOf d)
  if ← Check.ask (cx.carries owner tag) then return
  cx.reportOn d .ownerNotTagged ("@" ++ tag.name)

/-- The class named by a value of an attachment is known, and is the result; a value that is missing
or no string names nothing. Advice: the class may be there when the mod runs. -/
def ensureClassExists (d : DeclId) (a : AttachmentId) (name : String) :
    Check (Option TypeId) := do
  let attached ← Check.ask (cx.program.attachment a)
  let className := (attached.str? name).getD ""
  match cx.program.typeId? className with
  | some type => return some type
  | none =>
    Check.report .notFound ("Class " ++ className) "" (.value d a name)
    return none

/-- The number of some declarations that carry a tag. -/
def countCarrying (tag : Tag) : List DeclId → Answer Nat
  | [] => .ok 0
  | d :: rest => do
    let carried ← cx.carries d tag
    let others ← countCarrying tag rest
    return others + if carried then 1 else 0

/-- The members of the declaration around a declaration, itself included, that carry a tag are
neither fewer nor more than the bounds allow. -/
def ensureElementCount (d : DeclId) (tag : Tag) (low high : Nat) : Check Unit := do
  let owner ← Check.ask (cx.program.ownerOf d)
  let members ← Check.ask (cx.program.membersOf owner)
  let count ← Check.ask (cx.countCarrying tag members)
  let expected := tag.annotationName cx.framework.profile
  if count < low then cx.reportOn d .notEnough expected
  else if count > high then cx.reportOn d .tooMany expected
  else return

end Context

end ModContracts
