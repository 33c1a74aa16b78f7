import ModContracts.Contract

/-!
# Rounds

A round checks every declaration that carries a tag against the contract of that tag.

* `Context.pairs` — the tags with their declarations, in the order in which a round takes them;
* `Context.check`, `Context.validate` — one pair, and all of them;
* `round` — a round over a program under a profile;
* `Listing`, `Context.listings` — what the pairs are, listed without checking them.
-/

namespace ModContracts

/-- What a round looked at. -/
structure RoundSummary where
  /-- The number of tags that some declaration carries. -/
  tags : Nat
  /-- The number of pairs of a tag and a declaration. -/
  checked : Nat
  deriving DecidableEq, Repr

namespace Context

variable (cx : Context)

/-- The pairs of a tag and a declaration that carries it, tag by tag. -/
def pairs : List (Tag × DeclId) :=
  Tag.all.flatMap fun tag => (cx.tagged tag).map fun d => (tag, d)

/-- The size of a round. -/
def summary : RoundSummary where
  tags := Tag.all.countP fun tag => ! (cx.tagged tag).isEmpty
  checked := cx.pairs.length

/-- Checks a declaration against the contract of a tag: all of it, whatever is reported. A tag on a
declaration of a kind it does not accept is a fault. -/
def check (tag : Tag) (d : DeclId) : Check Unit := do
  let decl ← Check.ask (cx.program.declaration d)
  if tag.accepts decl.kind then
    tag.contract.forM (cx.checkRequirement d)
  else throw (.unexpectedTarget tag decl.kind decl.name)

/-- Checks all pairs, up to the first fault. -/
def validate : Check RoundSummary := do
  cx.pairs.forM fun (tag, d) => cx.check tag d
  return cx.summary

end Context

/-- A round over a program: its outcome and what it reported. A designated type that is missing is a
fault before the round. -/
def round (p : Program) (profile : Profile) :
    Except CheckFault (Except CheckFault RoundSummary × Diagnostics) :=
  (Context.ofProgram p profile).map fun cx => cx.validate.after []

/-! ## Listings -/

/-- A declaration that carries a tag. -/
structure Listing where
  tag : Tag
  kind : Kind
  /-- The qualified name of a type, the simple name of a member. -/
  name : String
  modifiers : ModifierSet
  deriving DecidableEq, Repr

/-- Four hexadecimal digits. -/
def hexWord (w : UInt16) : String :=
  let digits := Nat.toDigits 16 w.toNat
  String.ofList (List.replicate (4 - digits.length) '0' ++ digits)

/-- A listing in one line. -/
def Listing.text (l : Listing) : String :=
  s!"@{l.tag.name} {l.kind.phrase} {l.name} [{l.modifiers.text}] access=0x{hexWord l.modifiers.mask}"

namespace Context

variable (cx : Context)

/-- The listing of a declaration under a tag. -/
def listing (tag : Tag) (d : DeclId) : Answer Listing := do
  let decl ← cx.program.declaration d
  let name ← if decl.kind.isType then cx.program.typeName (← cx.program.typeOf d)
    else .ok decl.name
  return { tag, kind := decl.kind, name, modifiers := decl.modifiers }

/-- The listings of all pairs, in the order of a round. -/
def listings : Answer (List Listing) :=
  cx.pairs.mapM fun (tag, d) => cx.listing tag d

end Context

/-- What the declarations of a program that carry tags are, under a profile. -/
def inspect (p : Program) (profile : Profile) : Except CheckFault (List Listing) := do
  let cx ← Context.ofProgram p profile
  cx.listings.mapError .program

end ModContracts
