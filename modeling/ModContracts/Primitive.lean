/-!
# Primitive types

The eight primitive types, the class each of them boxes to, and widening conversion.

* `Primitive` — the primitives;
* `Primitive.widensTo` — widening conversion, a partial order;
* `Primitive.boxedName` — the class a value of the primitive boxes to.
-/

namespace ModContracts

/-- A primitive type. -/
inductive Primitive where
  | boolean
  | byte
  | short
  | char
  | int
  | long
  | float
  | double
  deriving DecidableEq, Repr

namespace Primitive

/-- Every primitive, in the order in which a program registers them. -/
def all : List Primitive :=
  [.boolean, .byte, .short, .char, .int, .long, .float, .double]

/-- The keyword of a primitive, which is also its canonical type name. -/
def name : Primitive → String
  | .boolean => "boolean"
  | .byte => "byte"
  | .short => "short"
  | .char => "char"
  | .int => "int"
  | .long => "long"
  | .float => "float"
  | .double => "double"

/-- The qualified name of the class a primitive boxes to. -/
def boxedName : Primitive → String
  | .boolean => "java.lang.Boolean"
  | .byte => "java.lang.Byte"
  | .short => "java.lang.Short"
  | .char => "java.lang.Character"
  | .int => "java.lang.Integer"
  | .long => "java.lang.Long"
  | .float => "java.lang.Float"
  | .double => "java.lang.Double"

/-- The primitives that can hold every value of the given one, itself first. -/
def widenings : Primitive → List Primitive
  | .boolean => [.boolean]
  | .byte => [.byte, .short, .int, .long, .float, .double]
  | .short => [.short, .int, .long, .float, .double]
  | .char => [.char, .int, .long, .float, .double]
  | .int => [.int, .long, .float, .double]
  | .long => [.long, .float, .double]
  | .float => [.float, .double]
  | .double => [.double]

/-- Widening conversion, every primitive to itself included. -/
def widensTo (source target : Primitive) : Bool :=
  source.widenings.contains target

/-- The primitive of a keyword. -/
def ofName? (word : String) : Option Primitive :=
  all.find? (·.name = word)

theorem mem_all (p : Primitive) : p ∈ all := by
  cases p <;> decide

theorem widensTo_refl (p : Primitive) : p.widensTo p = true := by
  cases p <;> rfl

theorem widensTo_trans {p q r : Primitive} (hpq : p.widensTo q = true)
    (hqr : q.widensTo r = true) : p.widensTo r = true := by
  revert hpq hqr
  cases p <;> cases q <;> cases r <;> decide

theorem boxedName_injective {p q : Primitive} (h : p.boxedName = q.boxedName) : p = q := by
  revert h
  cases p <;> cases q <;> decide

end Primitive

end ModContracts
