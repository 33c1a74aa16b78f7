/-!
# Declaration kinds

The seven kinds of declaration a program is made of, and the words for them.

* `Kind` — the kinds;
* `Kind.isType`, `Kind.isExecutable` — the two families the rules tell apart;
* `Kind.keyword`, `Kind.phrase`, `Kind.label` — the word in a snapshot, in running text, and at
  the start of a diagnostic message.
-/

namespace ModContracts

/-- The kind of a declaration. -/
inductive Kind where
  | classType
  | interfaceType
  | enumType
  | annotationType
  | method
  | constructor
  | field
  deriving DecidableEq, Repr

namespace Kind

/-- Every kind, in catalogue order. -/
def all : List Kind :=
  [.classType, .interfaceType, .enumType, .annotationType, .method, .constructor, .field]

/-- Kinds that introduce a type. -/
def isType : Kind → Bool
  | .classType | .interfaceType | .enumType | .annotationType => true
  | .method | .constructor | .field => false

/-- Kinds that take parameters. -/
def isExecutable : Kind → Bool
  | .method | .constructor => true
  | _ => false

/-- The word for a kind in a snapshot. -/
def keyword : Kind → String
  | .classType => "class"
  | .interfaceType => "interface"
  | .enumType => "enum"
  | .annotationType => "annotation_type"
  | .method => "method"
  | .constructor => "constructor"
  | .field => "field"

/-- The words for a kind inside a sentence. -/
def phrase : Kind → String
  | .classType => "class"
  | .interfaceType => "interface"
  | .enumType => "enum"
  | .annotationType => "annotation type"
  | .method => "method"
  | .constructor => "constructor"
  | .field => "field"

/-- The words for a kind at the start of a diagnostic message. -/
def label : Kind → String
  | .classType => "Class"
  | .interfaceType => "Interface"
  | .enumType => "Enum"
  | .annotationType => "Annotation type"
  | .method => "Method"
  | .constructor => "Constructor"
  | .field => "Field"

/-- The kind a snapshot word stands for. -/
def ofKeyword? (word : String) : Option Kind :=
  all.find? (·.keyword = word)

theorem ofKeyword?_keyword (k : Kind) : ofKeyword? k.keyword = some k := by
  cases k <;> decide +kernel

theorem not_isExecutable_of_isType {k : Kind} (h : k.isType = true) : k.isExecutable = false := by
  cases k <;> simp_all [isType, isExecutable]

end Kind

end ModContracts
