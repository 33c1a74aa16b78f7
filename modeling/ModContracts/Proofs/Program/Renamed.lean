import ModContracts.Contract
import ModContracts.Proofs.Program.Matched
import ModContracts.Proofs.Program.Naming
import ModContracts.Proofs.Program.Queries

/-!
# Programs that differ in the names of types

Two programs can say the same about the same declarations and number and name their types differently.
A type of the one then has a counterpart in the other, under the renamed name, and every query about the
one is answered like the query about the counterparts. Under the renaming that renames nothing, the
answers that are texts are equal as well: ids do not show in them.

* `TypeRenaming` — a renaming that keeps the names that are looked up as such;
* `Program.Counterpart` — a type and the type of the renamed name;
* `Program.TypesRenamed` — programs whose types are alike, with what that says about subtyping, whatever
  the order of types and of supertypes;
* `Program.Renamed` — programs that are alike altogether;
* `Program.TypesRenamed.matched`, `Program.Renamed.matched` — such programs match, so that every query is
  answered alike.
-/

namespace ModContracts

/-! ## Renamings -/

/-- A renaming of types that merges no names and keeps those that are looked up under a fixed name. -/
structure TypeRenaming (ρ : String → String) : Prop where
  injective : Function.Injective ρ
  builtin : ∀ entry ∈ builtinTypes, ρ entry.name = entry.name
  boxed : ∀ q : Primitive, ρ q.boxedName = q.boxedName
  /-- A value that names no class still names none. -/
  empty : ρ "" = ""

theorem typeRenaming_id : TypeRenaming id :=
  ⟨Function.injective_id, fun _ _ => rfl, fun _ => rfl, rfl⟩

/-- A name that is kept may stand in for one that is not written, before the renaming or after it. -/
theorem getD_map_of_fixed {ρ : String → String} {name : String} (hname : ρ name = name)
    (written? : Option String) : (written?.map ρ).getD name = ρ (written?.getD name) := by
  cases written? with
  | none => exact hname.symm
  | some other => rfl

/-! ## Entries of the tables -/

/-- Declarations that differ in the types they name, and in texts only if names are changed. -/
structure Declaration.Alike (ρ : String → String) (T : TypeId → TypeId → Prop)
    (decl decl' : Declaration) : Prop where
  kind : decl'.kind = decl.kind
  name : AgreeUnder ρ decl.name decl'.name
  type : Option.Rel T decl.type? decl'.type?
  modifiers : decl'.modifiers = decl.modifiers
  enclosing : decl'.enclosing? = decl.enclosing?
  members : decl'.members = decl.members
  parameters : List.Forall₂ T decl.parameters decl'.parameters
  returns : Option.Rel T decl.returns? decl'.returns?
  attachments : decl'.attachments = decl.attachments

theorem Declaration.Alike.matched {ρ : String → String} {T : TypeId → TypeId → Prop}
    {decl decl' : Declaration} (h : Declaration.Alike ρ T decl decl') :
    Declaration.Matched ρ T Eq decl decl' where
  kind := h.kind
  name := h.name
  type := h.type
  modifiers := h.modifiers
  enclosing := by
    rw [h.enclosing]
    exact rel_self fun _ _ => rfl
  members := by
    rw [h.members, List.forall₂_same]
    exact fun _ _ => rfl
  parameters := h.parameters
  returns := h.returns

/-- Attachments that agree in the values the rules read. The classes that the sides of a proxy name are
renamed with the types. -/
structure Attachment.Alike (ρ : String → String) (T : TypeId → TypeId → Prop) (isProxy : TypeId → Prop)
    (attached attached' : Attachment) : Prop where
  owner : attached'.owner = attached.owner
  type : T attached.type attached'.type
  value : attached'.str? "value" = attached.str? "value"
  sides : isProxy attached.type → ∀ side ∈ Context.proxySides,
    attached'.str? side = (attached.str? side).map ρ

namespace Program

variable {ρ : String → String} {profile : Profile} {p p' : Program} {t t' u u' : TypeId}

/-! ## Counterparts -/

/-- A type of a program and the type of another program that has the renamed name. -/
def Counterpart (ρ : String → String) (p p' : Program) (t t' : TypeId) : Prop :=
  ∃ name, p.typeName t = .ok name ∧ p'.typeName t' = .ok (ρ name)

namespace Counterpart

variable {name : String}

theorem of_typeId? (hp : p.Indexed) (hp' : p'.Indexed) (ht : p.typeId? name = some t)
    (ht' : p'.typeId? (ρ name) = some t') : Counterpart ρ p p' t t' :=
  ⟨name, hp.typeName_of_typeId? ht, hp'.typeName_of_typeId? ht'⟩

/-- The counterpart of the type of a name is the type of the renamed name. -/
theorem typeId?_eq (hp : p.Indexed) (hp' : p'.Indexed) (h : Counterpart ρ p p' t t')
    (ht : p.typeId? name = some t) : p'.typeId? (ρ name) = some t' := by
  obtain ⟨other, hother, hother'⟩ := h
  obtain rfl : name = other := Except.ok.inj ((hp.typeName_of_typeId? ht).symm.trans hother)
  exact hp'.typeId?_eq_some_iff.2 hother'

/-- A type has no two counterparts. -/
theorem unique (hp' : p'.Indexed) (h : Counterpart ρ p p' t t') (hu : Counterpart ρ p p' t u') :
    t' = u' := by
  obtain ⟨name, hname, hname'⟩ := h
  obtain ⟨other, hother, hother'⟩ := hu
  obtain rfl : name = other := Except.ok.inj (hname.symm.trans hother)
  have ht' := hp'.typeId?_eq_some_iff.2 hname'
  have hu' := hp'.typeId?_eq_some_iff.2 hother'
  exact Option.some.inj (ht'.symm.trans hu')

/-- No two types have the same counterpart. -/
theorem injective (hp : p.Indexed) (hρ : Function.Injective ρ) (h : Counterpart ρ p p' t t')
    (hu : Counterpart ρ p p' u t') : t = u := by
  obtain ⟨name, hname, hname'⟩ := h
  obtain ⟨other, hother, hother'⟩ := hu
  obtain rfl : name = other := hρ (Except.ok.inj (hname'.symm.trans hother'))
  have ht := hp.typeId?_eq_some_iff.2 hname
  have hu := hp.typeId?_eq_some_iff.2 hother
  exact Option.some.inj (ht.symm.trans hu)

theorem eq_iff (hp : p.Indexed) (hp' : p'.Indexed) (hρ : Function.Injective ρ)
    (h : Counterpart ρ p p' t t') (hu : Counterpart ρ p p' u u') : t' = u' ↔ t = u := by
  constructor
  · rintro rfl
    exact h.injective hp hρ hu
  · rintro rfl
    exact h.unique hp' hu

end Counterpart

/-- Declarations that match introduce counterparts, or do not introduce them. -/
theorem Counterpart.introduced?_iff {D : DeclId → DeclId → Prop} {decl decl' : Declaration}
    (hp : p.Indexed) (hp' : p'.Indexed) (hρ : Function.Injective ρ) (ht : Counterpart ρ p p' t t')
    (h : Declaration.Matched ρ (Counterpart ρ p p') D decl decl') :
    decl'.introduced? = some t' ↔ decl.introduced? = some t := by
  rw [Declaration.introduced?_eq_some_iff, Declaration.introduced?_eq_some_iff, h.kind]
  rcases rel_cases h.type with ⟨hnone, hnone'⟩ | ⟨u, u', hsome, hsome', hu⟩
  · rw [hnone, hnone']
    simp
  · rw [hsome, hsome', Option.some.injEq, Option.some.injEq, hu.eq_iff hp hp' hρ ht]

/-- The annotation type of proxies under a profile. -/
def IsProxyType (p : Program) (profile : Profile) (t : TypeId) : Prop :=
  p.typeName t = .ok (Tag.sidedProxy.annotationName profile)

/-- Programs whose types are alike under the renamed names, whatever they declare. -/
structure TypesRenamed (ρ : String → String) (p p' : Program) : Prop where
  indexed : p.Indexed
  indexed' : p'.Indexed
  builtin : ∀ {t : TypeId} {entry : TypeEntry}, builtinTypes[t]? = some entry →
    p.typeName t = .ok entry.name
  builtin' : ∀ {t : TypeId} {entry : TypeEntry}, builtinTypes[t]? = some entry →
    p'.typeName t = .ok entry.name
  /-- The renamed program knows the renamed names. -/
  names : ∀ name', name' ∈ p'.names ↔ ∃ name ∈ p.names, ρ name = name'
  typeKind : ∀ {t t' : TypeId}, Counterpart ρ p p' t t' → p'.typeKind? t' = p.typeKind? t
  /-- Supertypes correspond, in whatever order they are written. -/
  extends_left : ∀ {t t' u : TypeId}, Counterpart ρ p p' t t' → p.Extends t u →
    ∃ u', Counterpart ρ p p' u u' ∧ p'.Extends t' u'
  extends_right : ∀ {t t' u' : TypeId}, Counterpart ρ p p' t t' → p'.Extends t' u' →
    ∃ u, Counterpart ρ p p' u u' ∧ p.Extends t u

/-- A program and another one that says the same about the same declarations, where every type has the
renamed name. -/
structure Renamed (ρ : String → String) (profile : Profile) (p p' : Program) : Prop
    extends TypesRenamed ρ p p' where
  declarations : List.Forall₂ (Declaration.Alike ρ (Counterpart ρ p p')) p.declarations
    p'.declarations
  attachments : List.Forall₂ (Attachment.Alike ρ (Counterpart ρ p p') (p.IsProxyType profile))
    p.attachments p'.attachments
  introducing : ∀ {t t' : TypeId}, Counterpart ρ p p' t t' → p'.introducing? t' = p.introducing? t
  carriersOf : ∀ {t t' : TypeId}, Counterpart ρ p p' t t' → p'.carriersOf t' = p.carriersOf t

namespace TypesRenamed

variable (h : TypesRenamed ρ p p')
include h

/-! ### Names -/

/-- A name and the renamed name stand for counterparts, or for nothing. -/
theorem typeId?_rel (hρ : Function.Injective ρ) (name : String) :
    Option.Rel (Counterpart ρ p p') (p.typeId? name) (p'.typeId? (ρ name)) := by
  have hknown : ρ name ∈ p'.names ↔ name ∈ p.names := by
    rw [h.names]
    constructor
    · intro hname
      obtain ⟨other, hother, heq⟩ := hname
      exact hρ heq ▸ hother
    · intro hname
      exact ⟨name, hname, rfl⟩
  cases ht : p.typeId? name with
  | none =>
      have hnone : p'.typeId? (ρ name) = none := by
        rw [h.indexed'.typeId?_eq_none_iff, hknown, ← h.indexed.typeId?_eq_none_iff]
        exact ht
      rw [hnone]
      exact .none
  | some t =>
      have hmem : name ∈ p.names := h.indexed.exists_typeId?_iff.1 ⟨t, ht⟩
      obtain ⟨t', ht'⟩ := h.indexed'.exists_typeId?_iff.2 (hknown.2 hmem)
      rw [ht']
      exact .some (.of_typeId? h.indexed h.indexed' ht ht')

/-- A name that is kept stands for counterparts. -/
theorem typeId?_rel_of_fixed (hρ : Function.Injective ρ) {name : String} (hname : ρ name = name) :
    Option.Rel (Counterpart ρ p p') (p.typeId? name) (p'.typeId? name) := by
  have hrel := h.typeId?_rel hρ name
  rwa [hname] at hrel

theorem counterpart_builtin (hρ : TypeRenaming ρ) {entry : TypeEntry}
    (ht : builtinTypes[t]? = some entry) : Counterpart ρ p p' t t := by
  refine ⟨entry.name, h.builtin ht, ?_⟩
  rw [hρ.builtin entry (List.mem_of_getElem? ht)]
  exact h.builtin' ht

theorem counterpart_eq_iff (hρ : Function.Injective ρ) (ht : Counterpart ρ p p' t t')
    (hu : Counterpart ρ p p' u u') : t' = u' ↔ t = u :=
  ht.eq_iff h.indexed h.indexed' hρ hu

omit h in
theorem typeName_alike (ht : Counterpart ρ p p' t t') :
    ResultsAlike ρ (AgreeUnder ρ) (p.typeName t) (p'.typeName t') := by
  obtain ⟨name, hname, hname'⟩ := ht
  rw [hname, hname']
  exact .ok (.rename name)

/-! ### Subtyping -/

theorem reachable_left (ht : Counterpart ρ p p' t t')
    (hreaches : Relation.ReflTransGen p.Extends t u) :
    ∃ u', Counterpart ρ p p' u u' ∧ Relation.ReflTransGen p'.Extends t' u' := by
  induction hreaches with
  | refl => exact ⟨t', ht, .refl⟩
  | tail _ hextends ih =>
      obtain ⟨b', hb, hchain⟩ := ih
      obtain ⟨c', hc, hstep⟩ := h.extends_left hb hextends
      exact ⟨c', hc, hchain.tail hstep⟩

theorem reachable_right (ht : Counterpart ρ p p' t t')
    (hreaches : Relation.ReflTransGen p'.Extends t' u') :
    ∃ u, Counterpart ρ p p' u u' ∧ Relation.ReflTransGen p.Extends t u := by
  induction hreaches with
  | refl => exact ⟨t, ht, .refl⟩
  | tail _ hextends ih =>
      obtain ⟨b, hb, hchain⟩ := ih
      obtain ⟨c, hc, hstep⟩ := h.extends_right hb hextends
      exact ⟨c, hc, hchain.tail hstep⟩

/-- Chains of supertypes lead from and to counterparts. -/
theorem reaches_eq (hρ : Function.Injective ρ) (ht : Counterpart ρ p p' t t')
    (hu : Counterpart ρ p p' u u') : p'.reaches t' u' = p.reaches t u := by
  rw [Bool.eq_iff_iff, reaches_iff, reaches_iff]
  constructor
  · intro hreaches
    obtain ⟨v, hv, hchain⟩ := h.reachable_right ht hreaches
    rwa [← hv.injective h.indexed hρ hu]
  · intro hreaches
    obtain ⟨v', hv, hchain⟩ := h.reachable_left ht hreaches
    rwa [← hv.unique h.indexed' hu]

theorem isSubtype_eq (hρ : TypeRenaming ρ) (ht : Counterpart ρ p p' t t')
    (hu : Counterpart ρ p p' u u') : p'.isSubtype t' u' = p.isSubtype t u := by
  have hobject : Counterpart ρ p p' TypeId.object TypeId.object := h.counterpart_builtin hρ rfl
  have hroot : (u' = TypeId.object) = (u = TypeId.object) :=
    propext (h.counterpart_eq_iff hρ.injective hu hobject)
  unfold isSubtype
  rw [h.typeKind ht, h.typeKind hu, h.reaches_eq hρ.injective ht hu]
  simp only [hroot]

theorem isSameType_eq (hρ : Function.Injective ρ) (ht : Counterpart ρ p p' t t')
    (hu : Counterpart ρ p p' u u') : p'.isSameType t' u' = p.isSameType t u := by
  unfold isSameType
  rw [h.typeKind ht]
  simp only [h.counterpart_eq_iff hρ ht hu]

theorem boxed?_rel (hρ : TypeRenaming ρ) (q : Primitive) :
    Option.Rel (Counterpart ρ p p') (p.boxed? q) (p'.boxed? q) :=
  h.typeId?_rel_of_fixed hρ.injective (hρ.boxed q)

theorem boxed?_eq_some_iff (hρ : TypeRenaming ρ) (q : Primitive) (ht : Counterpart ρ p p' t t') :
    p'.boxed? q = some t' ↔ p.boxed? q = some t := by
  rcases rel_cases (h.boxed?_rel hρ q) with ⟨hnone, hnone'⟩ | ⟨box, box', hsome, hsome', hbox⟩
  · simp [hnone, hnone']
  · rw [hsome, hsome', Option.some.injEq, Option.some.injEq]
    exact h.counterpart_eq_iff hρ.injective hbox ht

/-- Boxes are found by their names, which a renaming keeps. -/
theorem isAssignable_eq (hρ : TypeRenaming ρ) (ht : Counterpart ρ p p' t t')
    (hu : Counterpart ρ p p' u u') : p'.isAssignable t' u' = p.isAssignable t u := by
  unfold isAssignable
  rw [h.typeKind ht, h.typeKind hu, h.isSubtype_eq hρ ht hu]
  simp only [h.boxed?_eq_some_iff hρ _ ht]
  congr 1
  split
  case h_1 q _ _ =>
      rcases rel_cases (h.boxed?_rel hρ q) with ⟨hnone, hnone'⟩ | ⟨box, box', hsome, hsome', hbox⟩
      · rw [hnone, hnone']
      · rw [hsome, hsome']
        exact h.isSubtype_eq hρ hbox hu
  case h_2 => rfl
  case h_3 => rfl

/-! ### Queries -/

omit h in
/-- A renaming takes no name but the empty one to the empty one. -/
theorem rename_eq_empty_iff (hρ : TypeRenaming ρ) (name : String) : ρ name = "" ↔ name = "" := by
  rw [← hρ.empty, hρ.injective.eq_iff, hρ.empty]

/-- Programs whose types are alike match if what corresponds says the same. -/
theorem matched {D : DeclId → DeclId → Prop} (hρ : TypeRenaming ρ)
    (hdeclaration : ∀ {d d' : DeclId}, D d d' →
      ResultsAlike ρ (Declaration.Matched ρ (Counterpart ρ p p') D) (p.declaration d)
        (p'.declaration d'))
    (hintroducing : ∀ {t t' : TypeId}, Counterpart ρ p p' t t' →
      Option.Rel D (p.introducing? t) (p'.introducing? t')) :
    p.Matched ρ (Counterpart ρ p p') D p' where
  empty := rename_eq_empty_iff hρ
  typeId? := h.typeId?_rel hρ.injective
  typeName := typeName_alike
  void := h.counterpart_builtin hρ rfl
  isSubtype := h.isSubtype_eq hρ
  isSameType := h.isSameType_eq hρ.injective
  isAssignable := h.isAssignable_eq hρ
  declaration := hdeclaration
  introducing? := hintroducing

end TypesRenamed

namespace Renamed

variable (h : Renamed ρ profile p p')
include h

theorem declaration_alike (d : DeclId) :
    ResultsAlike ρ (Declaration.Alike ρ (Counterpart ρ p p')) (p.declaration d)
      (p'.declaration d) := by
  unfold declaration
  rcases rel_cases (rel_getElem?_of_forall₂ h.declarations d) with
    ⟨hnone, hnone'⟩ | ⟨decl, decl', hsome, hsome', hdecl⟩
  · rw [hnone, hnone']
    exact .error (.refl _)
  · rw [hsome, hsome']
    exact .ok hdecl

/-- Programs that are alike match, every declaration with the one of the same id. -/
theorem matched (hρ : TypeRenaming ρ) : p.Matched ρ (Counterpart ρ p p') Eq p' := by
  refine h.toTypesRenamed.matched hρ ?_ ?_
  · rintro d _ rfl
    exact (h.declaration_alike d).mono fun _ _ hdecl => hdecl.matched
  · intro t t' ht
    rw [h.introducing ht]
    exact rel_self fun _ _ => rfl

theorem attachment_alike (a : AttachmentId) :
    ResultsAlike ρ (Attachment.Alike ρ (Counterpart ρ p p') (p.IsProxyType profile))
      (p.attachment a) (p'.attachment a) := by
  unfold attachment
  rcases rel_cases (rel_getElem?_of_forall₂ h.attachments a) with
    ⟨hnone, hnone'⟩ | ⟨attached, attached', hsome, hsome', hattached⟩
  · rw [hnone, hnone']
    exact .error (.refl _)
  · rw [hsome, hsome']
    exact .ok hattached

/-- The first attachments of counterparts are the same one. What is known of it goes for both. -/
theorem findAttachment_rel (hρ : Function.Injective ρ) (ht : Counterpart ρ p p' t t') (d : DeclId) :
    ResultsAlike ρ
      (Option.Rel fun a a' => a = a' ∧ ∃ attached attached', p.attachment a = .ok attached ∧
        p'.attachment a = .ok attached' ∧ attached.type = t ∧
        Attachment.Alike ρ (Counterpart ρ p p') (p.IsProxyType profile) attached attached')
      (p.findAttachment d t) (p'.findAttachment d t') := by
  refine findAttachment_alike ((h.declaration_alike d).map fun decl decl' hdecl => ?_)
  rw [hdecl.attachments, List.forall₂_same]
  refine fun a _ => (h.attachment_alike a).and_eq.mono fun attached attached' hattached => ?_
  obtain ⟨halike, hsome, hsome'⟩ := hattached
  exact ⟨h.counterpart_eq_iff hρ halike.type ht,
    fun htype => ⟨rfl, attached, attached', hsome, hsome', htype, halike⟩⟩

end Renamed

end Program

end ModContracts
