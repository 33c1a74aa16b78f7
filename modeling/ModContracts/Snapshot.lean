import ModContracts.Kind
import ModContracts.Modifier
import ModContracts.Keyed
import ModContracts.Location

/-!
# Snapshots

A snapshot describes a program by names: library types with their supertypes, and the declarations
as a tree. Types go by qualified names, members by simple ones.

* `Snapshot`, `TypeSpec`, `DeclSpec`, `AttachmentSpec`, `ValueSpec` — the description;
* `Snapshot.namedTypes` — every type a snapshot names, with the supertypes written for it.
-/

namespace ModContracts

/-- A library type. -/
structure TypeSpec where
  name : String
  supertypes : List String := []
  deriving DecidableEq, Repr

/-- A value of an annotation. -/
inductive ValueSpec where
  | bool (value : Bool)
  | int (value : Int64)
  | str (value : String)
  /-- A class literal, by the name of the type. -/
  | classLiteral (name : String)
  /-- An annotation inside a value. -/
  | nested (type : String) (values : List (String × ValueSpec)) (location? : Option Location)
      (valueLocations : Keyed String Location)
  | list (items : List ValueSpec)

/-- An annotation on a declaration. -/
structure AttachmentSpec where
  /-- The name of the annotation type. -/
  type : String
  values : Keyed String ValueSpec := []
  location? : Option Location := none
  /-- Where single values were written. -/
  valueLocations : Keyed String Location := []

/-- A declaration with everything inside it. -/
structure DeclSpec where
  kind : Kind
  name : String
  modifiers : List Modifier := []
  supertypes : List String := []
  /-- The type of a field. -/
  type? : Option String := none
  parameters : List String := []
  /-- The return type of a method. -/
  returns? : Option String := none
  attachments : List AttachmentSpec := []
  members : List DeclSpec := []
  location? : Option Location := none

/-- A description of a program. -/
structure Snapshot where
  /-- Library types that the declarations refer to. -/
  types : List TypeSpec := []
  declarations : List DeclSpec := []

mutual

/-- The type declarations in a declaration, outermost first, with their supertypes. -/
def DeclSpec.namedTypes : DeclSpec → List (String × List String)
  | ⟨kind, name, _, supertypes, _, _, _, _, members, _⟩ =>
    (if kind.isType then [(name, supertypes)] else []) ++ DeclSpec.namedTypesOfAll members

/-- The type declarations in some declarations. -/
def DeclSpec.namedTypesOfAll : List DeclSpec → List (String × List String)
  | [] => []
  | spec :: rest => DeclSpec.namedTypes spec ++ DeclSpec.namedTypesOfAll rest

end

/-- The types a snapshot names, library types first, with the supertypes written for each. -/
def Snapshot.namedTypes (s : Snapshot) : List (String × List String) :=
  s.types.map (fun spec => (spec.name, spec.supertypes)) ++
    DeclSpec.namedTypesOfAll s.declarations

end ModContracts
