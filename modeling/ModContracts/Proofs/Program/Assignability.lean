import ModContracts.Proofs.Program.Order

/-!
# Assignability

A value can be assigned to a variable of a type above its own, of a type above its box class if it is
primitive, and of a primitive type that the primitive in the box widens to if it is boxed. What can be
assigned to a type can be assigned to every type above that one, unless it is the root of declared types
through which the way up leads.

* `Program.Assignable` — the three conversions; `Program.Assignable.trans`;
* `Program.Built.boxed?_eq_some_iff`, `Program.typeName_box_unique` — box classes go by their names;
* `Program.assignability_of_obtained` — the conversions compose with the order of types, and a box class
  is the only declared type that is unboxed.
-/

namespace ModContracts

namespace Program

variable {p : Program} {s t u box : TypeId} {q r : Primitive}

/-! ## Box classes -/

/-- A box class is found by its name. -/
theorem Built.boxed?_eq_some_iff (h : p.Built) :
    p.boxed? q = some t ↔ p.typeName t = .ok q.boxedName :=
  h.indexed.typeId?_eq_some_iff

/-- A type is the box class of at most one primitive. -/
theorem typeName_box_unique (hq : p.typeName t = .ok q.boxedName)
    (hr : p.typeName t = .ok r.boxedName) : q = r :=
  Primitive.boxedName_injective (Except.ok.inj (hq.symm.trans hr))

/-- A box class is a declared type. -/
theorem Built.typeKind?_box (h : p.Built) (hbox : p.typeName box = .ok q.boxedName) :
    p.typeKind? box = some .declared := by
  rw [h.typeKind?_eq hbox]
  cases q <;> decide +kernel

/-! ## Conversions -/

/-- The three conversions that make a value of one type fit a variable of another. -/
inductive Assignable (p : Program) (s t : TypeId) : Prop where
  | below (h : p.Below s t)
  | boxing {q : Primitive} {box : TypeId} (hs : p.typeKind? s = some (.primitive q))
      (ht : p.typeKind? t = some .declared) (hbox : p.boxed? q = some box) (h : p.Below box t)
  | unboxing {q r : Primitive} (hs : p.typeKind? s = some .declared)
      (ht : p.typeKind? t = some (.primitive r)) (hbox : p.boxed? q = some s)
      (hwidens : q.widensTo r = true)

theorem isAssignable_iff : p.isAssignable s t = true ↔ p.Assignable s t := by
  unfold isAssignable
  rw [Bool.or_eq_true, isSubtype_iff]
  constructor
  · rintro (h | h)
    · exact .below h
    · split at h
      case h_1 q hs ht =>
          split at h
          case h_1 box hbox => exact .boxing hs ht hbox (isSubtype_iff.1 h)
          case h_2 => cases h
      case h_2 r hs ht =>
          obtain ⟨q, -, hq⟩ := List.any_eq_true.1 h
          rw [Bool.and_eq_true, decide_eq_true_eq] at hq
          exact .unboxing hs ht hq.1 hq.2
      case h_3 => cases h
  · intro h
    cases h with
    | below h => exact .inl h
    | boxing hs ht hbox h =>
        right
        rw [hs, ht]
        simpa only [hbox] using isSubtype_iff.2 h
    | @unboxing q r hs ht hbox hwidens =>
        right
        rw [hs, ht]
        refine List.any_eq_true.2 ⟨q, q.mem_all, ?_⟩
        rw [Bool.and_eq_true, decide_eq_true_eq]
        exact ⟨hbox, hwidens⟩

namespace Assignable

/-- What fits a type fits every type above it, unless that type is the root of declared types. -/
theorem trans (ht : t ≠ TypeId.object) (hst : p.Assignable s t) (htu : p.Below t u) :
    p.Assignable s u := by
  cases hst with
  | below h => exact .below (h.trans ht htu)
  | boxing hs hk hbox h =>
      exact .boxing hs ((Below.of_declared hk).1 htu).1 hbox (h.trans ht htu)
  | unboxing hs hk hbox hwidens =>
      obtain ⟨_, hu, hwidens'⟩ := (Below.of_primitive hk).1 htu
      exact .unboxing hs hu hbox (Primitive.widensTo_trans hwidens hwidens')

/-- Nothing but unboxing makes a declared type fit a primitive. -/
theorem unboxing_iff (hs : p.typeKind? s = some .declared)
    (ht : p.typeKind? t = some (.primitive r)) :
    p.Assignable s t ↔ ∃ q, p.boxed? q = some s ∧ q.widensTo r = true := by
  constructor
  · rintro (h | ⟨hs', -⟩ | ⟨-, ht', hbox, hwidens⟩)
    · simp [((Below.of_declared hs).1 h).1] at ht
    · simp [hs] at hs'
    · obtain rfl : r = _ := by simpa [ht] using ht'
      exact ⟨_, hbox, hwidens⟩
  · exact fun ⟨_, hbox, hwidens⟩ => .unboxing hs ht hbox hwidens

theorem of_void (hs : p.typeKind? s = some .void) :
    p.Assignable s t ↔ p.typeKind? t = some .void := by
  constructor
  · rintro (h | ⟨hs', -⟩ | ⟨hs', -⟩)
    · exact (Below.of_void hs).1 h
    · simp [hs] at hs'
    · simp [hs] at hs'
  · exact fun ht => .below ((Below.of_void hs).2 ht)

end Assignable

/-! ## What assignability is -/

/-- What assignability is in a program. -/
structure Assignability (p : Program) : Prop where
  upward : ∀ s t u, t ≠ TypeId.object → p.isAssignable s t = true → p.isSubtype t u = true →
    p.isAssignable s u = true
  of_isSubtype : ∀ s t, p.isSubtype s t = true → p.isAssignable s t = true
  /-- A declared type fits a primitive exactly when it is itself the box class of one that widens to
  it, of which there is no second. -/
  unboxing_iff : ∀ s t r, p.typeKind? s = some .declared → p.typeKind? t = some (.primitive r) →
    (p.isAssignable s t = true ↔ ∃! q : Primitive,
      p.typeName s = .ok q.boxedName ∧ q.widensTo r = true)
  /-- What is above or below a box class, and is none itself, fits no primitive. -/
  box_alone : ∀ (box s t : TypeId) (q r : Primitive), p.typeName box = .ok q.boxedName →
    p.isSubtype s box = true ∨ p.isSubtype box s = true →
    (∀ q' : Primitive, p.typeName s ≠ .ok q'.boxedName) → p.typeKind? t = some (.primitive r) →
    p.isAssignable s t = false
  void_iff : ∀ t, p.isAssignable TypeId.void t = true ↔ t = TypeId.void

/-- The conversions compose with the order of types; a box class is unboxed, and no other declared type
is; `void` fits nothing but itself. -/
theorem assignability_of_obtained (h : p.Obtained) : p.Assignability := by
  have hbuilt : p.Built := h.built
  have hunboxing (s t : TypeId) (r : Primitive) (hs : p.typeKind? s = some .declared)
      (ht : p.typeKind? t = some (.primitive r)) :
      p.Assignable s t ↔
        ∃ q : Primitive, p.typeName s = .ok q.boxedName ∧ q.widensTo r = true := by
    simp only [Assignable.unboxing_iff hs ht, hbuilt.boxed?_eq_some_iff]
  refine
    { upward := fun s t u ht hst htu => ?_
      of_isSubtype := fun s t hst => ?_
      unboxing_iff := fun s t r hs ht => ?_
      box_alone := fun box s t q r hbox hrelated hnone ht => ?_
      void_iff := fun t => ?_ }
  · exact isAssignable_iff.2 ((isAssignable_iff.1 hst).trans ht (isSubtype_iff.1 htu))
  · exact isAssignable_iff.2 (.below (isSubtype_iff.1 hst))
  · rw [isAssignable_iff, hunboxing s t r hs ht]
    constructor
    · rintro ⟨q, hq⟩
      exact ⟨q, hq, fun q' hq' => typeName_box_unique hq'.1 hq.1⟩
    · exact fun hunique => hunique.exists
  · have hk : p.typeKind? box = some .declared := hbuilt.typeKind?_box hbox
    have hs : p.typeKind? s = some .declared := by
      rcases hrelated with hbelow | habove
      · exact (isSubtype_iff.1 hbelow).declared_left hk
      · exact ((Below.of_declared hk).1 (isSubtype_iff.1 habove)).1
    rw [Bool.eq_false_iff, ne_eq, isAssignable_iff, hunboxing s t r hs ht]
    rintro ⟨q', hq', -⟩
    exact hnone q' hq'
  · rw [isAssignable_iff, Assignable.of_void (hbuilt.typeKind?_eq_void_iff.2 rfl),
      hbuilt.typeKind?_eq_void_iff]

/-- Two box classes with a class above them, and a class below one of them. -/
def boxesExample : List Edit :=
  [.declareType "java.lang.Number" [], .declareType "java.lang.Integer" [11],
    .declareType "java.lang.Long" [11], .declareType "a.Counter" [12]]

theorem exists_assignability_boxesExample :
    ∃ p, Program.initial.applyAll boxesExample = some p ∧ p.Assignability ∧
      -- by boxing, from `int` to `Integer` and on to `Number`
      p.isAssignable 5 12 = true ∧ p.isSubtype 12 11 = true ∧ p.isAssignable 5 11 = true ∧
      -- by unboxing, from `Integer` to `int` and on to `long`
      p.isAssignable 12 5 = true ∧ p.isAssignable 12 6 = true ∧ p.isAssignable 13 5 = false ∧
      p.isAssignable 14 5 = false ∧ p.isAssignable 11 6 = false := by
  have hrun : (Program.initial.applyAll boxesExample).map (fun p =>
      [p.isAssignable 5 12, p.isSubtype 12 11, p.isAssignable 12 5, p.isSubtype 5 6,
        p.isAssignable 13 5, p.isAssignable 14 5, p.isAssignable 11 6]) =
      some [true, true, true, true, false, false, false] := by
    decide +kernel
  obtain ⟨p, hp, heq⟩ := Option.map_eq_some_iff.1 hrun
  simp only [List.cons.injEq, and_true] at heq
  obtain ⟨hbox, hnumber, hunbox, hwidens, hlong, hcounter, habove⟩ := heq
  have hall := assignability_of_obtained (.edited hp)
  exact ⟨p, hp, hall, hbox, hnumber, hall.upward 5 12 11 (by decide) hbox hnumber, hunbox,
    hall.upward 12 5 6 (by decide) hunbox hwidens, hlong, hcounter, habove⟩

end Program

end ModContracts
