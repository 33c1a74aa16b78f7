import ModContracts.Program

/-!
# Subtyping and assignability

* `Walk`, `Program.walk` — a walk up the declared supertypes, step by step;
* `Program.reaches` — a chain of declared supertypes leads from one type to another;
* `Program.isSubtype` — subtyping: declared types by chains, primitives by widening;
* `Program.isAssignable` — subtyping, boxing before it, or unboxing with widening after it;
* `Program.isSameType` — identity of known types.

Ids the program does not know are related to nothing.
-/

namespace ModContracts

/-- A walk up the declared supertypes. -/
structure Walk where
  /-- The types visited so far. -/
  visited : List TypeId
  /-- The types that come next, in order; some may have been visited already. -/
  pending : List TypeId
  deriving DecidableEq, Repr

/-- A walk that has not left its first type. -/
def Walk.start (source : TypeId) : Walk := ⟨[], [source]⟩

namespace Program

variable (p : Program)

/-- The declared supertypes of a type; none for an id the program does not know. -/
def supertypesOf (t : TypeId) : List TypeId :=
  match p.types[t]? with
  | some entry => entry.supertypes
  | none => []

/-- One step of a walk: it looks at the type that comes next. One that was visited before is passed
over; any other is visited, and its supertypes come next, the last one first. A walk that is at its
target, or has nowhere to go, is over. -/
def walkStep (target : TypeId) : Walk → Bool ⊕ Walk
  | ⟨_, []⟩ => .inl false
  | ⟨visited, t :: rest⟩ =>
    if t = target then .inl true
    else if visited.contains t then .inr ⟨visited, rest⟩
    else .inr ⟨t :: visited, (p.supertypesOf t).reverse ++ rest⟩

/-- Takes so many steps, or fewer if there is an answer before: whether the walk finds its target. -/
def walk (target : TypeId) : Nat → Walk → Option Bool
  | 0, _ => none
  | steps + 1, w =>
    match p.walkStep target w with
    | .inl answer => some answer
    | .inr next => walk target steps next

/-- The steps that suffice for every walk from one type: each takes one type from those that come next,
and no type is visited, and has its supertypes put there, twice. -/
def walkBound : Nat :=
  ((List.range p.types.length).flatMap p.supertypesOf).length + 2

/-- Whether a chain of zero or more declared supertypes leads from one type to another. -/
def reaches (source target : TypeId) : Bool :=
  p.walk target p.walkBound (.start source) = some true

/-- Subtyping. Every declared type is a subtype of the root of declared types. -/
def isSubtype (sub super : TypeId) : Bool :=
  match p.typeKind? sub, p.typeKind? super with
  | some .void, some .void => true
  | some (.primitive a), some (.primitive b) => a.widensTo b
  | some .declared, some .declared => super = TypeId.object || p.reaches sub super
  | _, _ => false

/-- The class a primitive boxes to, if the program knows it. -/
def boxed? (q : Primitive) : Option TypeId :=
  p.typeId? q.boxedName

/-- Whether a value of the source type can be assigned to a variable of the target type. -/
def isAssignable (source target : TypeId) : Bool :=
  p.isSubtype source target ||
    match p.typeKind? source, p.typeKind? target with
    | some (.primitive q), some .declared =>
      match p.boxed? q with
      | some box => p.isSubtype box target
      | none => false
    | some .declared, some (.primitive unboxed) =>
      Primitive.all.any fun q => p.boxed? q = some source && q.widensTo unboxed
    | _, _ => false

/-- Whether two ids stand for the same known type. -/
def isSameType (a b : TypeId) : Bool :=
  a = b && (p.typeKind? a).isSome

end Program

end ModContracts
