import ModContracts.Proofs.Alike
import ModContracts.Proofs.Program.Subtyping

/-!
# Programs side by side

Two programs are asked the same things about things that correspond: types under one relation,
declarations under another. If the tables say the same about what corresponds, every query is answered
alike. Attachments are left open here: rules ask for them by tag, and two programs may agree on the
attachments of one tag only.

* `Declaration.Matched`, `Program.Matched` — declarations and programs that say the same about what
  corresponds;
* `Program.Matched.typeOf` and the other lemmas named after queries — the answers to each query;
* `Program.Matched.of_types_eq` — programs with the same types whose declarations correspond to
  themselves;
* `Program.findAttachment_alike` — the first attachments of a type.
-/

namespace ModContracts

variable {ρ : String → String} {T : TypeId → TypeId → Prop} {D : DeclId → DeclId → Prop}

/-- Declarations that say the same about types and declarations that correspond, whatever is attached
to them. Names agree unless types are renamed. -/
structure Declaration.Matched (ρ : String → String) (T : TypeId → TypeId → Prop)
    (D : DeclId → DeclId → Prop) (decl decl' : Declaration) : Prop where
  kind : decl'.kind = decl.kind
  name : AgreeUnder ρ decl.name decl'.name
  type : Option.Rel T decl.type? decl'.type?
  modifiers : decl'.modifiers = decl.modifiers
  enclosing : Option.Rel D decl.enclosing? decl'.enclosing?
  members : List.Forall₂ D decl.members decl'.members
  parameters : List.Forall₂ T decl.parameters decl'.parameters
  returns : Option.Rel T decl.returns? decl'.returns?

/-- Declarations that differ in what is attached to them and in where they were written. -/
theorem Declaration.matched_of_eq {decl decl' : Declaration}
    (h : decl' = { decl with attachments := decl'.attachments, location? := decl'.location? }) :
    Declaration.Matched ρ Eq Eq decl decl' := by
  rw [h]
  have hself {α : Type} (x : Option α) : Option.Rel Eq x x := rel_self fun _ _ => rfl
  have hlist {α : Type} (xs : List α) : List.Forall₂ Eq xs xs := List.forall₂_same.2 fun _ _ => rfl
  exact ⟨rfl, .refl _, hself _, rfl, hself _, hlist _, hlist _, hself _⟩

namespace Program

/-- Programs that say the same about types and declarations that correspond. -/
structure Matched (ρ : String → String) (T : TypeId → TypeId → Prop) (D : DeclId → DeclId → Prop)
    (p p' : Program) : Prop where
  /-- A value that names no class corresponds to one that names none. -/
  empty : ∀ name, ρ name = "" ↔ name = ""
  typeId? : ∀ name, Option.Rel T (p.typeId? name) (p'.typeId? (ρ name))
  typeName : ∀ {t t' : TypeId}, T t t' →
    ResultsAlike ρ (AgreeUnder ρ) (p.typeName t) (p'.typeName t')
  /-- What returns nothing returns the same. -/
  void : T TypeId.void TypeId.void
  isSubtype : ∀ {t t' u u' : TypeId}, T t t' → T u u' → p'.isSubtype t' u' = p.isSubtype t u
  isSameType : ∀ {t t' u u' : TypeId}, T t t' → T u u' → p'.isSameType t' u' = p.isSameType t u
  isAssignable : ∀ {t t' u u' : TypeId}, T t t' → T u u' →
    p'.isAssignable t' u' = p.isAssignable t u
  declaration : ∀ {d d' : DeclId}, D d d' →
    ResultsAlike ρ (Declaration.Matched ρ T D) (p.declaration d) (p'.declaration d')
  introducing? : ∀ {t t' : TypeId}, T t t' →
    Option.Rel D (p.introducing? t) (p'.introducing? t')

namespace Matched

variable {p p' : Program} {t t' : TypeId} {d d' : DeclId} (h : p.Matched ρ T D p')
include h

theorem simpleTypeName (ht : T t t') :
    ResultsAlike ρ (AgreeUnder ρ) (p.simpleTypeName t) (p'.simpleTypeName t') :=
  (h.typeName ht).map fun _ _ hname => hname.map lastSegment

variable (hd : D d d')
include hd

theorem kindOf : ResultsAlike ρ Eq (p.kindOf d) (p'.kindOf d') :=
  (h.declaration hd).map fun _ _ hdecl => hdecl.kind.symm

theorem modifiersOf : ResultsAlike ρ Eq (p.modifiersOf d) (p'.modifiersOf d') :=
  (h.declaration hd).map fun _ _ hdecl => hdecl.modifiers.symm

theorem enclosingOf : ResultsAlike ρ (Option.Rel D) (p.enclosingOf d) (p'.enclosingOf d') :=
  (h.declaration hd).map fun _ _ hdecl => hdecl.enclosing

theorem membersOf : ResultsAlike ρ (List.Forall₂ D) (p.membersOf d) (p'.membersOf d') :=
  (h.declaration hd).map fun _ _ hdecl => hdecl.members

theorem describe : ResultsAlike ρ (AgreeUnder ρ) (p.describe d) (p'.describe d') := by
  refine (h.declaration hd).map fun decl decl' hdecl => ?_
  rw [hdecl.kind]
  exact hdecl.name.map fun name => s!"{decl.kind.label} {name}"

theorem typeOf : ResultsAlike ρ T (p.typeOf d) (p'.typeOf d') := by
  refine (h.declaration hd).bind fun decl decl' hdecl => ?_
  rw [hdecl.kind]
  rcases rel_cases hdecl.type with ⟨hnone, hnone'⟩ | ⟨t, t', hsome, hsome', htype⟩
  · rw [hnone, hnone']
    exact .error (hdecl.name.map (ProgramFault.noDeclaredType decl.kind))
  · rw [hsome, hsome']
    exact .ok htype

theorem ownerOf : ResultsAlike ρ D (p.ownerOf d) (p'.ownerOf d') := by
  refine (h.declaration hd).bind fun decl decl' hdecl => ?_
  rw [hdecl.kind]
  rcases rel_cases hdecl.enclosing with ⟨hnone, hnone'⟩ | ⟨owner, owner', hsome, hsome', howner⟩
  · rw [hnone, hnone']
    exact .error (hdecl.name.map (ProgramFault.noEnclosing decl.kind))
  · rw [hsome, hsome']
    exact .ok howner

theorem executable :
    ResultsAlike ρ (Declaration.Matched ρ T D) (p.executable d) (p'.executable d') := by
  refine (h.declaration hd).bind fun decl decl' hdecl => ?_
  rw [hdecl.kind]
  split
  · exact .ok hdecl
  · exact .error (hdecl.name.map (ProgramFault.notExecutable decl.kind))

theorem parametersOf : ResultsAlike ρ (List.Forall₂ T) (p.parametersOf d) (p'.parametersOf d') :=
  (h.executable hd).map fun _ _ hdecl => hdecl.parameters

theorem returnTypeOf : ResultsAlike ρ T (p.returnTypeOf d) (p'.returnTypeOf d') := by
  refine (h.executable hd).map fun decl decl' hdecl => ?_
  rcases rel_cases hdecl.returns with ⟨hnone, hnone'⟩ | ⟨t, t', hsome, hsome', hreturns⟩
  · rw [hnone, hnone']
    exact h.void
  · rw [hsome, hsome']
    exact hreturns

end Matched

/-! ## Programs with the same types -/

section SameTypes

variable {p p' : Program} (htypes : p'.types = p.types)
include htypes

/-- Subtyping is decided by the types alone. -/
theorem isSubtype_of_types_eq : p'.isSubtype = p.isSubtype := by
  have hextends : p'.Extends = p.Extends := by
    unfold Extends supertypesOf
    rw [htypes]
  funext t u
  have hreaches : p'.reaches t u = p.reaches t u := by
    rw [Bool.eq_iff_iff, reaches_iff, reaches_iff, hextends]
  unfold isSubtype typeKind?
  rw [hreaches, htypes]

/-- Programs with the same types, whose declarations are the same but for attachments and locations,
match as they are. -/
theorem Matched.of_types_eq (hids : p'.typeIds = p.typeIds)
    (hintroducing : ∀ t, p'.introducing? t = p.introducing? t)
    (hdeclaration : ∀ d,
      ResultsAlike id (Declaration.Matched id Eq Eq) (p.declaration d) (p'.declaration d)) :
    p.Matched id Eq Eq p' := by
  have hsubtype := isSubtype_of_types_eq htypes
  exact {
    empty := fun _ => Iff.rfl
    typeId? := fun name => by
      unfold Program.typeId?
      rw [hids]
      exact rel_self fun _ _ => rfl
    typeName := by
      rintro t _ rfl
      unfold Program.typeName
      rw [htypes]
      exact .refl fun _ _ => .refl _
    void := rfl
    isSubtype := by
      rintro t _ u _ rfl rfl
      rw [hsubtype]
    isSameType := by
      rintro t _ u _ rfl rfl
      unfold Program.isSameType typeKind?
      rw [htypes]
    isAssignable := by
      rintro t _ u _ rfl rfl
      unfold Program.isAssignable typeKind? boxed? Program.typeId?
      rw [hsubtype, htypes, hids]
    declaration := by
      rintro d _ rfl
      exact hdeclaration d
    introducing? := by
      rintro t _ rfl
      rw [hintroducing]
      exact rel_self fun _ _ => rfl }

end SameTypes

/-! ## Attachments -/

section Attachments

variable {p p' : Program} {A : AttachmentId → AttachmentId → Prop} {t t' : TypeId}

/-- Two attachments are both of the types that are looked for, and then correspond, or both of other
types. -/
def ChoiceAlike (ρ : String → String) (A : AttachmentId → AttachmentId → Prop) (p p' : Program)
    (t t' : TypeId) (a a' : AttachmentId) : Prop :=
  ResultsAlike ρ (fun attached attached' => (attached'.type = t' ↔ attached.type = t) ∧
    (attached.type = t → A a a')) (p.attachment a) (p'.attachment a')

/-- The first attachments of two types correspond if all choices are alike up to there. -/
theorem firstOfType_alike {as as' : List AttachmentId}
    (h : List.Forall₂ (ChoiceAlike ρ A p p' t t') as as') :
    ResultsAlike ρ (Option.Rel A) (p.firstOfType t as) (p'.firstOfType t' as') := by
  induction h with
  | nil => exact .ok .none
  | cons hfirst _ ih =>
      refine ResultsAlike.bind hfirst fun attached attached' hattached => ?_
      by_cases htype : attached.type = t
      · rw [if_pos htype, if_pos (hattached.1.2 htype)]
        exact .ok (.some (hattached.2 htype))
      · rw [if_neg htype, if_neg (mt hattached.1.1 htype)]
        exact ih

theorem findAttachment_alike {d d' : DeclId}
    (h : ResultsAlike ρ (List.Forall₂ (ChoiceAlike ρ A p p' t t')) (p.attachmentsOf d)
      (p'.attachmentsOf d')) :
    ResultsAlike ρ (Option.Rel A) (p.findAttachment d t) (p'.findAttachment d' t') :=
  h.bind fun _ _ has => firstOfType_alike has

end Attachments

end Program

end ModContracts
