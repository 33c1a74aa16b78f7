import ModContracts.Program

/-!
# Diagnostics

What a check can find wrong, and how it is told.

* `Code` — the catalogue of violations; a code fixes number, severity and template;
* `Anchor` — the element a diagnostic is pinned to;
* `Diagnostic` — a reported violation, made by `Code.render`, told in one line by
  `Diagnostic.text`;
* `locate` — the most precise location a program knows for an anchor.
-/

namespace ModContracts

/-! ## The catalogue -/

/-- How much a violation weighs. -/
inductive Severity where
  /-- The build must fail. -/
  | error
  /-- The build goes on. -/
  | warning
  deriving DecidableEq, Repr

/-- The word for a severity. -/
def Severity.word : Severity → String
  | .error => "error"
  | .warning => "warning"

/-- Errors come before warnings. -/
def Severity.rank : Severity → Nat
  | .error => 0
  | .warning => 1

/-- A kind of violation. -/
inductive Code where
  | nonPublic
  | isStatic
  | nonStatic
  | isFinal
  | nonFinal
  | isAbstract
  | nonAbstract
  | missingConstructor
  | invalidParameters
  | invalidReturn
  | tooMany
  | notEnough
  | notSubtype
  | notAssignable
  | notFound
  | notSame
  | ownerNotTagged
  deriving DecidableEq, Repr

namespace Code

/-- Every code, in numerical order. -/
def all : List Code :=
  [.nonPublic, .isStatic, .nonStatic, .isFinal, .nonFinal, .isAbstract, .nonAbstract,
    .missingConstructor, .invalidParameters, .invalidReturn, .tooMany, .notEnough,
    .notSubtype, .notAssignable, .notFound, .notSame, .ownerNotTagged]

/-- The number of a code: 1000s for modifiers, 2000s for members and signatures, 3000s for
relations between types, 4000s for advice. -/
def number : Code → Nat
  | .nonPublic => 1001
  | .isStatic => 1002
  | .nonStatic => 1003
  | .isFinal => 1004
  | .nonFinal => 1005
  | .isAbstract => 1006
  | .nonAbstract => 1007
  | .missingConstructor => 2001
  | .invalidParameters => 2002
  | .invalidReturn => 2003
  | .tooMany => 2004
  | .notEnough => 2005
  | .notSubtype => 3001
  | .notAssignable => 3002
  | .notFound => 4001
  | .notSame => 4002
  | .ownerNotTagged => 4003

/-- The name of a code in the catalogue. -/
def name : Code → String
  | .nonPublic => "NonPublic"
  | .isStatic => "Static"
  | .nonStatic => "NonStatic"
  | .isFinal => "Final"
  | .nonFinal => "NonFinal"
  | .isAbstract => "Abstract"
  | .nonAbstract => "NonAbstract"
  | .missingConstructor => "MissingConstructor"
  | .invalidParameters => "InvalidParameters"
  | .invalidReturn => "InvalidReturn"
  | .tooMany => "TooMany"
  | .notEnough => "NotEnough"
  | .notSubtype => "NotSubtype"
  | .notAssignable => "NotAssignable"
  | .notFound => "NotFound"
  | .notSame => "NotSame"
  | .ownerNotTagged => "MissingAnnotation"

/-- Advice is a warning, all else an error. -/
def severity : Code → Severity
  | .notFound | .notSame | .ownerNotTagged => .warning
  | _ => .error

/-- The fixed middle of a message, between what is wrong and what was expected. -/
def template : Code → String
  | .nonPublic => " must be public"
  | .isStatic => " cannot be static"
  | .nonStatic => " must be static"
  | .isFinal => " cannot be final"
  | .nonFinal => " must be final"
  | .isAbstract => " cannot be abstract"
  | .nonAbstract => " must be abstract"
  | .missingConstructor => " is missing required constructor with parameters "
  | .invalidParameters => " has invalid parameters. Must be "
  | .invalidReturn => " has an invalid return type. Must be "
  | .tooMany => " is invalid because there are too many members annotated with "
  | .notEnough => " is invalid because there are not enough members annotated with "
  | .notSubtype => " needs to be a subtype of "
  | .notAssignable => " needs to be assignable to "
  | .notFound => " not found"
  | .notSame => " should be of type "
  | .ownerNotTagged => "'s owner should be annotated with "

/-- The code of a number. -/
def ofNumber? (n : Nat) : Option Code :=
  all.find? (·.number = n)

theorem ofNumber?_number (c : Code) : ofNumber? c.number = some c := by
  cases c <;> rfl

theorem severity_eq_warning_iff (c : Code) : c.severity = .warning ↔ 4000 ≤ c.number := by
  cases c <;> decide

end Code

/-! ## Diagnostics -/

/-- What a diagnostic is pinned to, from coarsest to most precise. -/
inductive Anchor where
  | declaration (d : DeclId)
  | attachment (d : DeclId) (a : AttachmentId)
  /-- A named value of an attachment. -/
  | value (d : DeclId) (a : AttachmentId) (name : String)
  deriving DecidableEq, Repr

namespace Anchor

/-- The declaration of an anchor. -/
def declId : Anchor → DeclId
  | .declaration d | .attachment d _ | .value d _ _ => d

/-- The attachment of an anchor, if it has one. -/
def attachmentId? : Anchor → Option AttachmentId
  | .declaration _ => none
  | .attachment _ a | .value _ a _ => some a

/-- The value name of an anchor, if it has one. -/
def valueName? : Anchor → Option String
  | .value _ _ name => some name
  | _ => none

end Anchor

/-- A reported violation. -/
structure Diagnostic where
  severity : Severity
  code : Code
  message : String
  anchor : Anchor
  deriving DecidableEq, Repr

/-- The diagnostic of a code: what is wrong, the code's template, what was expected. -/
def Code.render (code : Code) (subject expected : String) (anchor : Anchor) : Diagnostic where
  severity := code.severity
  code := code
  message := subject ++ code.template ++ expected
  anchor := anchor

/-- A diagnostic in one line. -/
def Diagnostic.text (d : Diagnostic) : String :=
  s!"{d.severity.word}[{d.code.number}]: {d.message}"

/-! ## Locations -/

/-- The most precise location known for an anchor: a value falls back to its attachment, and an
attachment to its declaration. -/
def locate (p : Program) (anchor : Anchor) : Option Location :=
  let attached? := anchor.attachmentId?.bind (p.attachments[·]?)
  let precise := match attached?, anchor.valueName? with
    | some attached, some name => attached.valueLocation? name
    | some attached, none => attached.location?
    | none, _ => none
  precise.or (p.locationOf? anchor.declId)

end ModContracts
