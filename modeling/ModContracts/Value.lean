import ModContracts.Keyed
import ModContracts.Location

/-!
# Values and attachments

Annotations reach a program as attachments: an annotation type, fixed to one declaration, with
named values.

* `Value` — a value of an attachment; class literals and nested attachments refer to types by id;
* `Value.typeRefs`, `Attachment.typeRefs` — the class literals in a value, in document order;
* `Attachment` — an attachment, with `Attachment.valueLocation?` falling back to its own location.
-/

namespace ModContracts

/-- A handle to a type of a program. -/
abbrev TypeId := Nat

/-- A handle to a declaration of a program. -/
abbrev DeclId := Nat

/-- A handle to an attachment of a program. -/
abbrev AttachmentId := Nat

/-- A value an attachment holds under a name. -/
inductive Value where
  | bool (value : Bool)
  | int (value : Int64)
  | str (value : String)
  /-- A class literal. -/
  | type (type : TypeId)
  | list (items : List Value)
  /-- An attachment inside a value: its annotation type and its named values. -/
  | nested (type : TypeId) (values : List (String × Value))

namespace Value

/-- The text of a string value. -/
def str? : Value → Option String
  | .str s => some s
  | _ => none

/-- The type of a class literal. -/
def type? : Value → Option TypeId
  | .type t => some t
  | _ => none

/-- The truth value of a boolean. -/
def bool? : Value → Option Bool
  | .bool b => some b
  | _ => none

mutual

/-- The types that class literals name anywhere in a value, from left to right. -/
def typeRefs : Value → List TypeId
  | .type t => [t]
  | .list items => typeRefsOfItems items
  | .nested _ values => typeRefsOfEntries values
  | .bool _ | .int _ | .str _ => []

/-- The class literals of the items of a list. -/
def typeRefsOfItems : List Value → List TypeId
  | [] => []
  | v :: rest => typeRefs v ++ typeRefsOfItems rest

/-- The class literals of named values. -/
def typeRefsOfEntries : List (String × Value) → List TypeId
  | [] => []
  | (_, v) :: rest => typeRefs v ++ typeRefsOfEntries rest

end

end Value

/-- An annotation as it sits on one declaration. -/
structure Attachment where
  /-- The declaration the attachment belongs to. -/
  owner : DeclId
  /-- The annotation type. -/
  type : TypeId
  /-- The named values. -/
  values : Keyed String Value
  /-- Where the attachment was written. -/
  location? : Option Location := none
  /-- Where single values were written. -/
  valueLocations : Keyed String Location := []

namespace Attachment

/-- The value under a name. -/
def value? (a : Attachment) (name : String) : Option Value :=
  a.values.find? name

/-- The string under a name. -/
def str? (a : Attachment) (name : String) : Option String :=
  (a.value? name).bind Value.str?

/-- The class literals of all values, in document order. -/
def typeRefs (a : Attachment) : List TypeId :=
  Value.typeRefsOfEntries a.values

/-- Where a value was written: its own location, else that of the attachment. -/
def valueLocation? (a : Attachment) (name : String) : Option Location :=
  (a.valueLocations.find? name).or a.location?

end Attachment

end ModContracts
