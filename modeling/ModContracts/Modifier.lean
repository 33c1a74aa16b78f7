/-!
# Modifiers

The modifiers of a declaration, and sets of them kept as a class file's access mask.

* `Modifier` — the modifiers, `Modifier.all` in the order a declaration spells them;
* `ModifierSet` — sixteen access bits; bits that belong to no modifier are kept;
* `ModifierSet.toList`, `ModifierSet.text` — the modifiers of a set, in source order;
* `ModifierSet.has_ofList` — the set of some modifiers has those and no others.
-/

namespace ModContracts

/-- A modifier of a declaration. -/
inductive Modifier where
  | isPublic
  | isProtected
  | isPrivate
  | isAbstract
  | isStatic
  | isFinal
  | isTransient
  | isVolatile
  | isSynchronized
  | isNative
  | isStrictfp
  deriving DecidableEq, Repr

namespace Modifier

/-- Every modifier, in the order a declaration spells them. -/
def all : List Modifier :=
  [.isPublic, .isProtected, .isPrivate, .isAbstract, .isStatic, .isFinal, .isTransient,
    .isVolatile, .isSynchronized, .isNative, .isStrictfp]

/-- The word of a modifier. -/
def keyword : Modifier → String
  | .isPublic => "public"
  | .isProtected => "protected"
  | .isPrivate => "private"
  | .isAbstract => "abstract"
  | .isStatic => "static"
  | .isFinal => "final"
  | .isTransient => "transient"
  | .isVolatile => "volatile"
  | .isSynchronized => "synchronized"
  | .isNative => "native"
  | .isStrictfp => "strictfp"

/-- The access bit a class file sets for a modifier. -/
def accessFlag : Modifier → UInt16
  | .isPublic => 0x0001
  | .isPrivate => 0x0002
  | .isProtected => 0x0004
  | .isStatic => 0x0008
  | .isFinal => 0x0010
  | .isSynchronized => 0x0020
  | .isVolatile => 0x0040
  | .isTransient => 0x0080
  | .isNative => 0x0100
  | .isAbstract => 0x0400
  | .isStrictfp => 0x0800

/-- The modifier of a word. -/
def ofKeyword? (word : String) : Option Modifier :=
  all.find? (·.keyword = word)

/-- The position of a modifier's access bit. -/
def bit : Modifier → Nat
  | .isPublic => 0
  | .isPrivate => 1
  | .isProtected => 2
  | .isStatic => 3
  | .isFinal => 4
  | .isSynchronized => 5
  | .isVolatile => 6
  | .isTransient => 7
  | .isNative => 8
  | .isAbstract => 10
  | .isStrictfp => 11

theorem toBitVec_accessFlag (m : Modifier) : m.accessFlag.toBitVec = BitVec.twoPow 16 m.bit := by
  cases m <;> decide

theorem bit_lt (m : Modifier) : m.bit < 16 := by
  cases m <;> decide

theorem bit_eq_iff {m n : Modifier} : m.bit = n.bit ↔ m = n := by
  cases m <;> cases n <;> decide

theorem ofKeyword?_keyword (m : Modifier) : ofKeyword? m.keyword = some m := by
  cases m <;> decide +kernel

end Modifier

/-- A set of modifiers, as the access mask of a class file. -/
structure ModifierSet where
  /-- The access bits. -/
  mask : UInt16
  deriving DecidableEq, Repr

namespace ModifierSet

/-- The set without a modifier. -/
def empty : ModifierSet := ⟨0⟩

/-- Whether a set has a modifier: its bit is set. -/
def has (s : ModifierSet) (m : Modifier) : Bool :=
  s.mask &&& m.accessFlag = m.accessFlag

/-- Adds a modifier. -/
def insert (s : ModifierSet) (m : Modifier) : ModifierSet :=
  ⟨s.mask ||| m.accessFlag⟩

/-- The set of the listed modifiers; repeating one changes nothing. -/
def ofList (ms : List Modifier) : ModifierSet :=
  ms.foldl insert empty

/-- The modifiers of a set, in source order. -/
def toList (s : ModifierSet) : List Modifier :=
  Modifier.all.filter s.has

/-- The modifiers of a set as a declaration spells them, with single spaces between. -/
def text (s : ModifierSet) : String :=
  " ".intercalate (s.toList.map Modifier.keyword)

theorem has_empty (m : Modifier) : empty.has m = false := by
  cases m <;> decide

/-- A set has a modifier when the bit of the modifier is set, whatever the other bits are. -/
theorem has_eq_getLsbD (s : ModifierSet) (m : Modifier) :
    s.has m = s.mask.toBitVec.getLsbD m.bit := by
  simp only [has, ← UInt16.toBitVec_inj, UInt16.toBitVec_and, Modifier.toBitVec_accessFlag,
    BitVec.and_twoPow]
  cases h : s.mask.toBitVec.getLsbD m.bit with
  | true => simp
  | false =>
      have hne : BitVec.twoPow 16 m.bit ≠ 0#16 := by
        cases m <;> decide
      simp [Ne.symm hne]

theorem has_insert (s : ModifierSet) (m n : Modifier) :
    (s.insert m).has n = (s.has n || m = n) := by
  simp [has_eq_getLsbD, insert, Modifier.toBitVec_accessFlag, Modifier.bit_lt,
    Modifier.bit_eq_iff, eq_comm (a := n)]

/-- The set of some modifiers has those and no others. -/
theorem has_ofList (ms : List Modifier) (m : Modifier) : (ofList ms).has m = true ↔ m ∈ ms := by
  have hfold (s : ModifierSet) : (ms.foldl insert s).has m = true ↔ s.has m = true ∨ m ∈ ms := by
    induction ms generalizing s with
    | nil => simp
    | cons n rest ih => simp [ih, has_insert, or_assoc, eq_comm (a := m)]
  simp [ofList, hfold, has_empty]

end ModifierSet

end ModContracts
