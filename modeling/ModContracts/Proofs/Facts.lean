import ModContracts.Profile
import ModContracts.Tag
import ModContracts.Proofs.Program.WellFormed
import Mathlib.Data.List.Forall2

/-!
# Facts about declarations

The facts that rules are made of, put in terms of what a program answers. Types go by their names,
and nothing here mentions a check, a report or a resolved framework.

* `Program.HasModifier`, `Program.Takes`, `Program.Returns`, `Program.IsA`, `Program.CanHold` — what
  a declaration is like;
* `Program.FirstConstructor` — the first constructor for parameters of some types;
* `Program.HasPlainConstructor` — the first constructor without parameters is public;
* `Program.Carries`, `Program.FirstTagged`, `Program.FirstAttachment` — what puts a declaration under
  a tag;
* `Program.hasModifier_iff` and the other lemmas of this form — what a fact says of the table of
  declarations of a well-formed program.
-/

namespace ModContracts

/-- A search finds the first element of which a property holds, if its test tells the property. -/
theorem find?_eq_some_iff_first {α : Type} {P : α → Prop} {test : α → Bool}
    (h : ∀ x, test x = true ↔ P x) {xs : List α} {x : α} :
    xs.find? test = some x ↔
      ∃ before after, xs = before ++ x :: after ∧ (∀ b ∈ before, ¬ P b) ∧ P x := by
  have hnot (b : α) : (!test b) = true ↔ ¬ P b := by
    rw [← h]
    simp
  simp only [List.find?_eq_some_iff_append, hnot, h]
  constructor
  · intro hfind
    rcases hfind with ⟨hx, before, after, hsplit, hbefore⟩
    exact ⟨before, after, hsplit, hbefore, hx⟩
  · intro hfirst
    rcases hfirst with ⟨before, after, hsplit, hbefore, hx⟩
    exact ⟨hx, before, after, hsplit, hbefore⟩

/-- An attachment holds a string that is not empty under a name. -/
def Attachment.Names (attached : Attachment) (key text : String) : Prop :=
  attached.value? key = some (.str text) ∧ text ≠ ""

theorem Attachment.names_iff {attached : Attachment} {key text : String} :
    attached.Names key text ↔ (attached.str? key).getD "" = text ∧ text ≠ "" := by
  unfold Attachment.Names Attachment.str?
  refine and_congr_left fun htext => ?_
  cases attached.value? key with
  | none => simp [Ne.symm htext]
  | some value => cases value <;> simp [Value.str?, Ne.symm htext]

namespace Program

section Facts

variable (p : Program) (profile : Profile) (d : DeclId)

/-- A declaration has a modifier. -/
def HasModifier (m : Modifier) : Prop :=
  ∃ set, p.modifiersOf d = .ok set ∧ set.has m = true

/-- A declaration stands directly inside another one. -/
def StandsIn (o : DeclId) : Prop :=
  p.enclosingOf d = .ok (some o)

/-- A method takes exactly as many parameters as there are names, each a subtype of the type that is
named at its place. -/
def Takes (names : List String) : Prop :=
  ∃ actual, p.parametersOf d = .ok actual ∧
    List.Forall₂ (fun t name => ∃ super, p.typeId? name = some super ∧ p.isSubtype t super = true)
      actual names

/-- A method returns exactly the named type. -/
def Returns (name : String) : Prop :=
  ∃ t, p.typeId? name = some t ∧ p.returnTypeOf d = .ok t

/-- A method returns exactly the type it is declared in. -/
def ReturnsOwner : Prop :=
  ∃ o t, p.StandsIn d o ∧ p.typeOf o = .ok t ∧ p.returnTypeOf d = .ok t

/-- The type of a declaration is a subtype of the named one. -/
def IsA (name : String) : Prop :=
  ∃ t super, p.typeOf d = .ok t ∧ p.typeId? name = some super ∧ p.isSubtype t super = true

/-- A value of a type can be assigned to a declaration. -/
def CanHold (source : TypeId) : Prop :=
  ∃ t, p.typeOf d = .ok t ∧ p.isAssignable source t = true

/-- A declaration is a constructor that takes exactly as many parameters as there are types, each a
subtype of the type at its place. -/
def IsConstructorFor (types : List TypeId) (e : DeclId) : Prop :=
  p.kindOf e = .ok .constructor ∧ ∃ actual, p.parametersOf e = .ok actual ∧
    List.Forall₂ (fun t super => p.isSubtype t super = true) actual types

/-- The first of the members of a declaration that is a constructor for some types, or that there is
none. Nothing is said of the members after it. -/
def FirstConstructor (types : List TypeId) : Option DeclId → Prop
  | some e => ∃ before after, p.membersOf d = .ok (before ++ e :: after) ∧
      (∀ b ∈ before, ¬ p.IsConstructorFor types b) ∧ p.IsConstructorFor types e
  | none => ∃ members, p.membersOf d = .ok members ∧ ∀ e ∈ members, ¬ p.IsConstructorFor types e

/-- A declaration is a constructor without parameters. -/
def IsPlainConstructor (e : DeclId) : Prop :=
  p.kindOf e = .ok .constructor ∧ p.parametersOf e = .ok []

/-- A declaration has constructors without parameters directly inside it, and the first of them is
public. -/
def HasPlainConstructor : Prop :=
  ∃ before e after, p.membersOf d = .ok (before ++ e :: after) ∧
    (∀ b ∈ before, ¬ p.IsPlainConstructor b) ∧ p.IsPlainConstructor e ∧ p.HasModifier e .isPublic

/-- A declaration declares a type. -/
def Declares (t : TypeId) : Prop :=
  ∃ kind, p.kindOf d = .ok kind ∧ kind.isType = true ∧ p.typeOf d = .ok t

/-- An attachment is of the annotation type of a tag. -/
def IsTag (tag : Tag) (a : AttachmentId) : Prop :=
  ∃ type attached, p.typeId? (tag.annotationName profile) = some type ∧
    p.attachment a = .ok attached ∧ attached.type = type

/-- A declaration carries a tag: one of its attachments is of the tag's annotation type. -/
def Carries (tag : Tag) : Prop :=
  ∃ ids, p.attachmentsOf d = .ok ids ∧ ∃ a ∈ ids, p.IsTag profile tag a

/-- The first of the attachments listed on a declaration that is of a tag's annotation type. -/
def FirstTagged (tag : Tag) (a : AttachmentId) : Prop :=
  ∃ before after, p.attachmentsOf d = .ok (before ++ a :: after) ∧
    (∀ b ∈ before, ¬ p.IsTag profile tag b) ∧ p.IsTag profile tag a

/-- The first attachment of a declaration that is of a tag's annotation type. -/
def FirstAttachment (tag : Tag) (attached : Attachment) : Prop :=
  ∃ before a after, p.attachmentsOf d = .ok (before ++ a :: after) ∧
    (∀ b ∈ before, ¬ p.IsTag profile tag b) ∧ p.IsTag profile tag a ∧
    p.attachment a = .ok attached

/-- A field that holds an instance names another mod than the one around it. -/
def NamesAnother : Prop :=
  ∃ attached text, p.FirstAttachment profile d .modInstance attached ∧ attached.Names "value" text

/-- A declaration can hold a value of the type it is declared in. -/
def CanHoldOwner : Prop :=
  ∃ o t, p.StandsIn d o ∧ p.typeOf o = .ok t ∧ p.CanHold d t

/-- A declaration is of the type it is declared in. -/
def IsOwnerType : Prop :=
  ∃ o t, p.StandsIn d o ∧ p.typeOf o = .ok t ∧ p.typeOf d = .ok t

/-- The class that a proxy field names for a side, if it names one. -/
def NamesProxy (side name : String) : Prop :=
  ∃ attached, p.FirstAttachment profile d .sidedProxy attached ∧ attached.Names side name

/-- Every class that a proxy field names and the program knows can be held by the field, and has a
public constructor without parameters if the program declares it. -/
def ProxiesFit : Prop :=
  ∀ side ∈ ["clientSide", "serverSide"], ∀ name, p.NamesProxy profile d side name →
    ∀ t, p.typeId? name = some t →
      p.CanHold d t ∧ ∀ e, p.Declares e t → p.HasPlainConstructor e

/-- Every class that a proxy field names is known. -/
def ProxiesKnown : Prop :=
  ∀ side ∈ ["clientSide", "serverSide"], ∀ name, p.NamesProxy profile d side name →
    ∃ t, p.typeId? name = some t

/-- The declaration around a declaration carries a tag. -/
def OwnerCarries (tag : Tag) : Prop :=
  ∃ o, p.StandsIn d o ∧ p.Carries profile o tag

/-- Exactly one of the members beside a declaration, itself included, carries a tag. -/
def OnlyOneCarries (tag : Tag) : Prop :=
  ∃ o members, p.StandsIn d o ∧ p.membersOf o = .ok members ∧
    ∃! e, e ∈ members ∧ p.Carries profile e tag

/-- The members beside a declaration that carry a tag, itself included, each once. -/
def CarryBeside (tag : Tag) (carrying : List DeclId) : Prop :=
  carrying.Nodup ∧ ∃ o members, p.StandsIn d o ∧ p.membersOf o = .ok members ∧
    ∀ e, e ∈ carrying ↔ e ∈ members ∧ p.Carries profile e tag

end Facts

/-! ## Facts in the tables -/

variable {p : Program} {profile : Profile} {d : DeclId} {decl : Declaration}

section Known

variable (h : p.declarations[d]? = some decl)
include h

theorem hasModifier_iff {m : Modifier} : p.HasModifier d m ↔ decl.modifiers.has m = true := by
  simp [HasModifier, modifiersOf_eq h]

theorem standsIn_iff {o : DeclId} : p.StandsIn d o ↔ decl.enclosing? = some o := by
  simp [StandsIn, enclosingOf_eq h]

theorem canHold_iff {t source : TypeId} (htype : decl.type? = some t) :
    p.CanHold d source ↔ p.isAssignable source t = true := by
  simp [CanHold, typeOf_eq h htype]

theorem isA_iff {t super : TypeId} {name : String} (htype : decl.type? = some t)
    (hname : p.typeId? name = some super) : p.IsA d name ↔ p.isSubtype t super = true := by
  simp [IsA, typeOf_eq h htype, hname]

theorem returns_iff {t : TypeId} {name : String} (hkind : decl.kind.isExecutable = true)
    (hname : p.typeId? name = some t) :
    p.Returns d name ↔ decl.returns?.getD TypeId.void = t := by
  simp [Returns, returnTypeOf_eq h hkind, hname]

end Known

/-! ### Constructors -/

theorem isConstructorFor_nil_iff : p.IsConstructorFor [] d ↔ p.IsPlainConstructor d := by
  simp [IsConstructorFor, IsPlainConstructor]

/-- A plain constructor is there when the first constructor for no parameters is public. -/
theorem hasPlainConstructor_iff :
    p.HasPlainConstructor d ↔ ∃ e, p.FirstConstructor d [] (some e) ∧ p.HasModifier e .isPublic := by
  unfold HasPlainConstructor FirstConstructor
  simp only [isConstructorFor_nil_iff]
  constructor
  · intro h
    obtain ⟨before, e, after, hmembers, hbefore, he, hpublic⟩ := h
    exact ⟨e, ⟨before, after, hmembers, hbefore, he⟩, hpublic⟩
  · intro h
    obtain ⟨e, ⟨before, after, hmembers, hbefore, he⟩, hpublic⟩ := h
    exact ⟨before, e, after, hmembers, hbefore, he, hpublic⟩

/-! ### Tags -/

theorem isTag_iff {tag : Tag} {type : TypeId} {a : AttachmentId}
    (htype : p.typeId? (tag.annotationName profile) = some type) :
    p.IsTag profile tag a ↔ p.isOfType type a = true := by
  unfold IsTag isOfType attachment
  cases h : p.attachments[a]? <;> simp [htype, eq_comm]

/-- Without an annotation type nothing carries a tag. -/
theorem not_isTag {tag : Tag} {a : AttachmentId}
    (htype : p.typeId? (tag.annotationName profile) = none) : ¬ p.IsTag profile tag a := by
  rintro ⟨type, -, hsome, -⟩
  simp [htype] at hsome

theorem carries_iff {tag : Tag} :
    p.Carries profile d tag ↔
      (p.typeId? (tag.annotationName profile)).any (fun type => p.wears type d) = true := by
  unfold Carries wears
  cases hdecl : p.declarations[d]? with
  | none => simp [attachmentsOf, declaration, hdecl, Except.map]
  | some decl =>
      rw [attachmentsOf_eq hdecl]
      cases htype : p.typeId? (tag.annotationName profile) with
      | none => simp [not_isTag htype]
      | some type => simp [isTag_iff htype]

theorem firstTagged_iff (h : p.declarations[d]? = some decl) {tag : Tag} {type : TypeId}
    (htype : p.typeId? (tag.annotationName profile) = some type) {a : AttachmentId} :
    p.FirstTagged profile d tag a ↔ decl.attachments.find? (p.isOfType type) = some a := by
  rw [find?_eq_some_iff_first fun _ => (isTag_iff htype).symm]
  simp [FirstTagged, attachmentsOf_eq h]

theorem firstAttachment_iff_firstTagged {tag : Tag} {attached : Attachment} :
    p.FirstAttachment profile d tag attached ↔
      ∃ a, p.FirstTagged profile d tag a ∧ p.attachment a = .ok attached := by
  unfold FirstAttachment FirstTagged
  constructor
  · intro h
    rcases h with ⟨before, a, after, hids, hbefore, ha, hattached⟩
    exact ⟨a, ⟨before, after, hids, hbefore, ha⟩, hattached⟩
  · intro h
    rcases h with ⟨a, ⟨before, after, hids, hbefore, ha⟩, hattached⟩
    exact ⟨before, a, after, hids, hbefore, ha, hattached⟩

theorem firstAttachment_iff (h : p.declarations[d]? = some decl) {tag : Tag} {type : TypeId}
    (htype : p.typeId? (tag.annotationName profile) = some type) {attached : Attachment} :
    p.FirstAttachment profile d tag attached ↔
      ∃ a, decl.attachments.find? (p.isOfType type) = some a ∧
        p.attachments[a]? = some attached := by
  simp [firstAttachment_iff_firstTagged, firstTagged_iff h htype, attachment_eq_ok_iff]

/-- That exactly one member carries a tag is a matter of counting. -/
theorem onlyOneCarries_iff {tag : Tag} :
    p.OnlyOneCarries profile d tag ↔
      ∃ carrying, p.CarryBeside profile d tag carrying ∧ 1 ≤ carrying.length ∧
        carrying.length ≤ 1 := by
  unfold OnlyOneCarries CarryBeside
  constructor
  · intro h'
    obtain ⟨o, members, ho, hmembers, e, he, hunique⟩ := h'
    refine ⟨[e], ⟨by simp, o, members, ho, hmembers, fun e' => ?_⟩, by simp⟩
    rw [List.mem_singleton]
    exact ⟨fun heq => heq ▸ he, hunique e'⟩
  · intro h'
    obtain ⟨carrying, ⟨-, o, members, ho, hmembers, hcarrying⟩, hlow, hhigh⟩ := h'
    obtain ⟨e, rfl⟩ := List.length_eq_one_iff.1 (Nat.le_antisymm hhigh hlow)
    refine ⟨o, members, ho, hmembers, e, (hcarrying e).1 List.mem_cons_self, fun e' he' => ?_⟩
    exact List.mem_singleton.1 ((hcarrying e').2 he')

end Program

end ModContracts
