import ModContracts.Proofs.Program.Kinds
import ModContracts.Proofs.Program.Subtyping
import ModContracts.Proofs.Snapshot.Closed

/-!
# The order of types

What subtyping is in the programs that edits or a snapshot lead to, and how far it is an order. Every
type is below itself. A type below a second one that is below a third is below the third, as long as the
second is not the root of declared types: every declared type is below the root by a rule of its own and
not by a chain, and the root may have been given supertypes like any other type.

* `Program.Obtained` — edits or a snapshot lead to a program;
* `Program.Below` — the three ways for one type to be below another; `Program.Below.trans`;
* `Program.subtyping_of_obtained` — walks end, chains decide, and nothing else is related;
* `Program.preorder_of_obtained` — subtyping is a preorder exactly when whatever is above the root is
  above every declared type.
-/

namespace ModContracts

/-- Two types are of one sort: both `void`, both primitive, or both declared. -/
def TypeKind.isLike : TypeKind → TypeKind → Bool
  | .void, .void | .primitive _, .primitive _ | .declared, .declared => true
  | _, _ => false

namespace Program

variable {p : Program} {a b c t : TypeId}

/-- Edits or a snapshot lead to a program. -/
inductive Obtained (p : Program) : Prop where
  | edited {edits : List Edit} (h : Program.initial.applyAll edits = some p)
  | loaded {s : Snapshot} (h : s.load = .ok p)

theorem Obtained.built (h : p.Obtained) : p.Built := by
  cases h with
  | edited h => exact built_of_applyAll h
  | loaded h => exact Snapshot.built_of_load h

/-! ## Kinds -/

theorem Knows.exists_kind (h : p.Knows t) : ∃ k, p.typeKind? t = some k := by
  obtain ⟨name, hname⟩ := h
  unfold typeName at hname
  unfold typeKind?
  split at hname
  case h_1 entry hentry => exact ⟨entry.kind, by rw [hentry, Option.map_some]⟩
  case h_2 => cases hname

/-- The only name of `void` is the keyword. -/
theorem eq_of_kindOfName_eq_void {name : String} (h : kindOfName name = .void) : name = "void" := by
  unfold kindOfName at h
  cases hfind : builtinTypes.find? (·.name = name) with
  | none => simp [hfind] at h
  | some entry =>
      rw [hfind] at h
      have hvoid : ∀ entry ∈ builtinTypes, entry.kind = .void → entry.name = "void" := by decide
      have hname : entry.name = name := by simpa using List.find?_some hfind
      exact hname.symm.trans (hvoid entry (List.mem_of_find?_eq_some hfind) h)

/-- `void` is the only type of its kind. -/
theorem Built.typeKind?_eq_void_iff (h : p.Built) :
    p.typeKind? t = some .void ↔ t = TypeId.void := by
  have hentry : builtinTypes[TypeId.void]? = some ⟨"void", .void, []⟩ := rfl
  have hvoid : p.typeName TypeId.void = .ok "void" := h.typeName_builtin hentry
  constructor
  · intro hkind
    obtain ⟨entry, hentry, hk⟩ := Option.map_eq_some_iff.1 hkind
    have hname : p.typeName t = .ok entry.name := by rw [typeName, hentry]
    have hthis : entry.name = "void" := by
      refine eq_of_kindOfName_eq_void ?_
      rw [← h.kind_eq entry (List.mem_of_getElem? hentry), hk]
    -- two types of one name are the same
    rw [hthis, ← h.indexed.typeId?_eq_some_iff] at hname
    rw [← h.indexed.typeId?_eq_some_iff, hname] at hvoid
    exact Option.some.inj hvoid
  · rintro rfl
    rw [h.typeKind?_eq hvoid]
    rfl

theorem Built.typeKind?_object (h : p.Built) : p.typeKind? TypeId.object = some .declared := by
  have hentry : builtinTypes[TypeId.object]? = some ⟨objectName, .declared, []⟩ := rfl
  rw [h.typeKind?_eq (h.typeName_builtin hentry)]
  rfl

/-! ## Below -/

/-- The three ways for one type to be below another. -/
inductive Below (p : Program) (a b : TypeId) : Prop where
  | void (ha : p.typeKind? a = some .void) (hb : p.typeKind? b = some .void)
  | primitive {q r : Primitive} (ha : p.typeKind? a = some (.primitive q))
      (hb : p.typeKind? b = some (.primitive r)) (hwidens : q.widensTo r = true)
  /-- The root of declared types is above all of them; any other one is above by a chain. -/
  | declared (ha : p.typeKind? a = some .declared) (hb : p.typeKind? b = some .declared)
      (habove : b = TypeId.object ∨ Relation.ReflTransGen p.Extends a b)

theorem isSubtype_iff : p.isSubtype a b = true ↔ p.Below a b := by
  constructor
  · intro h
    unfold isSubtype at h
    split at h
    case h_1 ha hb => exact .void ha hb
    case h_2 ha hb => exact .primitive ha hb h
    case h_3 ha hb =>
        rw [Bool.or_eq_true, decide_eq_true_eq, reaches_iff] at h
        exact .declared ha hb h
    case h_4 => cases h
  · intro h
    unfold isSubtype
    cases h with
    | void ha hb => rw [ha, hb]
    | primitive ha hb hwidens =>
        rw [ha, hb]
        exact hwidens
    | declared ha hb habove =>
        rw [ha, hb]
        simpa [reaches_iff] using habove

namespace Below

theorem exists_kinds (h : p.Below a b) : ∃ k l, p.typeKind? a = some k ∧ p.typeKind? b = some l ∧
    k.isLike l = true := by
  cases h with
  | void ha hb => exact ⟨_, _, ha, hb, rfl⟩
  | primitive ha hb => exact ⟨_, _, ha, hb, rfl⟩
  | declared ha hb => exact ⟨_, _, ha, hb, rfl⟩

theorem of_void (ha : p.typeKind? a = some .void) : p.Below a b ↔ p.typeKind? b = some .void := by
  constructor
  · rintro (⟨-, hb⟩ | ⟨ha', -⟩ | ⟨ha', -⟩)
    · exact hb
    · simp [ha] at ha'
    · simp [ha] at ha'
  · exact fun hb => .void ha hb

theorem to_void (hb : p.typeKind? b = some .void) : p.Below a b ↔ p.typeKind? a = some .void := by
  constructor
  · rintro (⟨ha, -⟩ | ⟨-, hb'⟩ | ⟨-, hb'⟩)
    · exact ha
    · simp [hb] at hb'
    · simp [hb] at hb'
  · exact fun ha => .void ha hb

theorem of_primitive {q : Primitive} (ha : p.typeKind? a = some (.primitive q)) :
    p.Below a b ↔ ∃ r, p.typeKind? b = some (.primitive r) ∧ q.widensTo r = true := by
  constructor
  · rintro (⟨ha', -⟩ | ⟨ha', hb, hwidens⟩ | ⟨ha', -⟩)
    · simp [ha] at ha'
    · obtain rfl : q = _ := by simpa [ha] using ha'
      exact ⟨_, hb, hwidens⟩
    · simp [ha] at ha'
  · exact fun ⟨_, hb, hwidens⟩ => .primitive ha hb hwidens

theorem of_declared (ha : p.typeKind? a = some .declared) :
    p.Below a b ↔ p.typeKind? b = some .declared ∧
      (b = TypeId.object ∨ Relation.ReflTransGen p.Extends a b) := by
  constructor
  · rintro (⟨ha', -⟩ | ⟨ha', -⟩ | ⟨-, hb, habove⟩)
    · simp [ha] at ha'
    · simp [ha] at ha'
    · exact ⟨hb, habove⟩
  · exact fun ⟨hb, habove⟩ => .declared ha hb habove

/-- Only declared types are below a declared type. -/
theorem declared_left (h : p.Below a b) (hb : p.typeKind? b = some .declared) :
    p.typeKind? a = some .declared := by
  cases h with
  | void _ hb' => simp [hb] at hb'
  | primitive _ hb' => simp [hb] at hb'
  | declared ha => exact ha

theorem refl {k : TypeKind} (h : p.typeKind? t = some k) : p.Below t t := by
  cases k with
  | void => exact .void h h
  | primitive q => exact .primitive h h q.widensTo_refl
  | declared => exact .declared h h (.inr .refl)

/-- The order is transitive, unless the type between the others is the root of declared types. -/
theorem trans (hb : b ≠ TypeId.object) (hab : p.Below a b) (hbc : p.Below b c) : p.Below a c := by
  cases hab with
  | void ha hk => exact (of_void ha).2 ((of_void hk).1 hbc)
  | primitive ha hk hwidens =>
      obtain ⟨r, hc, hwidens'⟩ := (of_primitive hk).1 hbc
      exact .primitive ha hc (Primitive.widensTo_trans hwidens hwidens')
  | declared ha hk habove =>
      obtain ⟨hc, habove'⟩ := (of_declared hk).1 hbc
      refine .declared ha hc (habove'.imp id fun hchain => ?_)
      exact (habove.resolve_left hb).trans hchain

end Below

/-! ## What subtyping is -/

/-- What subtyping is in a program. -/
structure Subtyping (p : Program) : Prop where
  /-- Every walk ends: it has an answer within the bound, which no further step changes. -/
  ends : ∀ source target steps, p.walkBound ≤ steps →
    p.walk target steps (.start source) = some (p.reaches source target)
  reaches_iff : ∀ source target,
    p.reaches source target = true ↔ Relation.ReflTransGen p.Extends source target
  declared_iff : ∀ a b, p.typeKind? a = some .declared → p.typeKind? b = some .declared →
    (p.isSubtype a b = true ↔ b = TypeId.object ∨ Relation.ReflTransGen p.Extends a b)
  primitive_iff : ∀ a b q r, p.typeKind? a = some (.primitive q) →
    p.typeKind? b = some (.primitive r) → (p.isSubtype a b = true ↔ q.widensTo r = true)
  void_left : ∀ t, p.isSubtype TypeId.void t = true ↔ t = TypeId.void
  void_right : ∀ t, p.isSubtype t TypeId.void = true ↔ t = TypeId.void
  /-- An id that the program does not know, and a type of another kind, is not related. -/
  exists_kinds : ∀ a b, p.isSubtype a b = true →
    ∃ k l, p.typeKind? a = some k ∧ p.typeKind? b = some l ∧ k.isLike l = true

/-- Walks up the supertypes end and decide whether a chain leads from one type to another, whatever the
supertypes are: cycles, types that are their own supertypes, types met on two ways, primitives, and ids
that no type has. Subtyping is that for declared types, with all of them below the root; it is widening
for primitives, and identity for `void`. -/
theorem subtyping_of_obtained (h : p.Obtained) : p.Subtyping := by
  have hvoid (t : TypeId) : p.typeKind? t = some .void ↔ t = TypeId.void :=
    h.built.typeKind?_eq_void_iff
  exact
    { ends := fun _ _ _ hle => walk_of_bound_le hle
      reaches_iff := fun _ _ => Program.reaches_iff
      declared_iff := fun _ _ ha hb => by
        rw [isSubtype_iff, Below.of_declared ha, and_iff_right hb]
      primitive_iff := fun _ _ _ _ ha hb => by
        simp [isSubtype_iff, Below.of_primitive ha, hb]
      void_left := fun t => by
        rw [isSubtype_iff, Below.of_void ((hvoid _).2 rfl), hvoid]
      void_right := fun t => by
        rw [isSubtype_iff, Below.to_void ((hvoid _).2 rfl), hvoid]
      exists_kinds := fun _ _ hsub => (isSubtype_iff.1 hsub).exists_kinds }

/-- A type that is its own supertype, two types between the same other ones, a supertype that leads back
around, one that is a primitive with a supertype of its own, and one that no type is. -/
def tangledExample : List Edit :=
  [.declareType "a.Self" [11], .declareType "a.Top" [], .declareType "a.Left" [12],
    .declareType "a.Right" [12, 99], .declareType "a.Bottom" [13, 14], .addSupertype 12 15,
    .addSupertype 15 5, .addSupertype 5 11]

theorem exists_subtyping_tangledExample :
    ∃ p, Program.initial.applyAll tangledExample = some p ∧ p.Subtyping ∧
      p.isSubtype 13 14 = true ∧ p.isSubtype 13 11 = true ∧ p.isSubtype 11 13 = false ∧
      p.reaches 13 99 = true ∧ p.isSubtype 13 99 = false ∧ p.isSubtype 13 5 = false := by
  have hrun : (Program.initial.applyAll tangledExample).map (fun p =>
      (p.isSubtype 13 14, p.isSubtype 13 11, p.isSubtype 11 13, p.reaches 13 99,
        p.isSubtype 13 99, p.isSubtype 13 5)) = some (true, true, false, true, false, false) := by
    decide +kernel
  obtain ⟨p, hp, heq⟩ := Option.map_eq_some_iff.1 hrun
  simp only [Prod.mk.injEq] at heq
  exact ⟨p, hp, subtyping_of_obtained (.edited hp), heq⟩

/-! ## How far it is an order -/

/-- What is above the root of declared types by a chain, apart from the root itself, is so above every
declared type. -/
def RootOnTop (p : Program) : Prop :=
  ∀ t, p.typeKind? t = some .declared → Relation.ReflTransGen p.Extends TypeId.object t →
    t = TypeId.object ∨
      ∀ a, p.typeKind? a = some .declared → Relation.ReflTransGen p.Extends a t

/-- Every known type is below itself, and the order is transitive except where the root of declared
types stands between: it is transitive there too exactly when the root has nothing above it that is not
above every declared type. -/
theorem preorder_of_obtained (h : p.Obtained) :
    (∀ t, p.Knows t → p.isSubtype t t = true) ∧
    (∀ a b c, b ≠ TypeId.object → p.isSubtype a b = true → p.isSubtype b c = true →
      p.isSubtype a c = true) ∧
    ((∀ a b c, p.isSubtype a b = true → p.isSubtype b c = true → p.isSubtype a c = true) ↔
      p.RootOnTop) := by
  have hroot : p.typeKind? TypeId.object = some .declared := h.built.typeKind?_object
  simp only [isSubtype_iff]
  refine ⟨fun t ht => ?_, fun a b c hb hab hbc => hab.trans hb hbc, ?_, ?_⟩
  · obtain ⟨k, hk⟩ := ht.exists_kind
    exact .refl hk
  · intro htrans t ht hchain
    by_cases htop : t = TypeId.object
    · exact .inl htop
    · right
      intro a ha
      have hat := htrans a TypeId.object t (.declared ha hroot (.inl rfl))
        (.declared hroot ht (.inr hchain))
      exact ((Below.of_declared ha).1 hat).2.resolve_left htop
  · intro htop a b c hab hbc
    by_cases hb : b = TypeId.object
    · subst hb
      have ha := hab.declared_left hroot
      obtain ⟨hc, habove⟩ := (Below.of_declared hroot).1 hbc
      refine .declared ha hc ?_
      rcases habove with heq | hchain
      · exact .inl heq
      · exact (htop c hc hchain).imp id fun hall => hall a ha
    · exact hab.trans hb hbc

/-- A snapshot that writes a supertype for the root of declared types, and a class beside that. -/
def raisedRootExample : Snapshot where
  types := [{ name := objectName, supertypes := ["a.Above"] }, { name := "a.Above" }]
  declarations := [{ kind := .classType, name := "a.Beside" }]

theorem exists_preorder_raisedRootExample :
    ∃ p, raisedRootExample.load = .ok p ∧ p.isSubtype 12 12 = true ∧ ¬ p.RootOnTop := by
  have hload : (raisedRootExample.load.toOption.any fun p =>
      (p.typeName 12).toOption = some "a.Beside" ∧ p.isSubtype 12 9 = true ∧
        p.isSubtype 9 11 = true ∧ p.isSubtype 12 11 = false) = true := by
    decide +kernel
  obtain ⟨p, hp, hanswers⟩ := (Option.any_eq_true _ _).1 hload
  obtain ⟨hname, hlow, hhigh, hnot⟩ := of_decide_eq_true hanswers
  have hp := toOption_eq_some_iff.1 hp
  obtain ⟨hrefl, -, htrans⟩ := preorder_of_obtained (.loaded hp)
  refine ⟨p, hp, hrefl 12 ⟨"a.Beside", toOption_eq_some_iff.1 hname⟩, fun htop => ?_⟩
  simp [htrans.2 htop 12 9 11 hlow hhigh] at hnot

/-- In that program a class is below the root of declared types, and the root below another type that the
class is not below. -/
theorem exists_above_root :
    ∃ p, raisedRootExample.load = .ok p ∧ p.isSubtype 12 TypeId.object = true ∧
      p.isSubtype TypeId.object 11 = true ∧ p.isSubtype 12 11 = false := by
  have hload : (raisedRootExample.load.toOption.any fun p =>
      p.isSubtype 12 TypeId.object = true ∧ p.isSubtype TypeId.object 11 = true ∧
        p.isSubtype 12 11 = false) = true := by
    decide +kernel
  obtain ⟨p, hp, hanswers⟩ := (Option.any_eq_true _ _).1 hload
  exact ⟨p, toOption_eq_some_iff.1 hp, of_decide_eq_true hanswers⟩

end Program

end ModContracts
