import ModContracts.Program
import ModContracts.Proofs.Results

/-!
# Answers about what is there

A query about a declaration that is there has an answer: the part of the declaration that it asks
for. A query about the part that only some kinds have needs a declaration of such a kind.

* `Program.declaration_eq` and the queries built on it, each for a declaration that is there;
* `Program.typeOf_eq`, `Program.ownerOf_eq`, `Program.parametersOf_eq`, `Program.returnTypeOf_eq` —
  for a declaration that has the part;
* `Declaration.introduced?` — the type that is introduced, which for a field is none;
* `Program.firstOfType_eq`, `Program.mem_of_firstOfType` — the first attachment of a type;
* `Program.wears`, `Program.hasAttachment_eq`, `Program.hasAttachment_eq_true_iff` — whether a
  declaration carries an annotation type.
-/

namespace ModContracts

/-- The type a declaration introduces, if its kind introduces types. -/
def Declaration.introduced? (decl : Declaration) : Option TypeId :=
  if decl.kind.isType then decl.type? else none

theorem Declaration.introduced?_eq_some_iff {decl : Declaration} {t : TypeId} :
    decl.introduced? = some t ↔ decl.kind.isType = true ∧ decl.type? = some t :=
  Option.ite_none_right_eq_some

/-- The kind and name of a declaration, as messages begin with them. -/
def Declaration.subject (decl : Declaration) : String :=
  s!"{decl.kind.label} {decl.name}"

namespace Program

variable {p : Program} {d : DeclId} {decl : Declaration}

/-! ## Every declaration -/

section Known

variable (h : p.declarations[d]? = some decl)
include h

theorem declaration_eq : p.declaration d = .ok decl := by
  rw [declaration, h]

theorem kindOf_eq : p.kindOf d = .ok decl.kind := by
  rw [kindOf, declaration_eq h]
  rfl

theorem nameOf_eq : p.nameOf d = .ok decl.name := by
  rw [nameOf, declaration_eq h]
  rfl

theorem modifiersOf_eq : p.modifiersOf d = .ok decl.modifiers := by
  rw [modifiersOf, declaration_eq h]
  rfl

theorem enclosingOf_eq : p.enclosingOf d = .ok decl.enclosing? := by
  rw [enclosingOf, declaration_eq h]
  rfl

theorem membersOf_eq : p.membersOf d = .ok decl.members := by
  rw [membersOf, declaration_eq h]
  rfl

theorem attachmentsOf_eq : p.attachmentsOf d = .ok decl.attachments := by
  rw [attachmentsOf, declaration_eq h]
  rfl

theorem describe_eq : p.describe d = .ok decl.subject := by
  rw [describe, declaration_eq h]
  rfl

theorem locationOf?_eq : p.locationOf? d = decl.location? := by
  rw [locationOf?, h, Option.bind_some]

omit h in
theorem kindOf_eq_ok_iff {kind : Kind} :
    p.kindOf d = .ok kind ↔ ∃ decl, p.declarations[d]? = some decl ∧ decl.kind = kind := by
  unfold kindOf declaration
  cases p.declarations[d]? <;> simp [Except.map]

/-! ## Declarations of some kinds -/

theorem typeOf_eq {t : TypeId} (htype : decl.type? = some t) : p.typeOf d = .ok t := by
  rw [typeOf, declaration_eq h]
  simp only [bind, Except.bind, htype]

theorem ownerOf_eq {owner : DeclId} (howner : decl.enclosing? = some owner) :
    p.ownerOf d = .ok owner := by
  rw [ownerOf, declaration_eq h]
  simp only [bind, Except.bind, howner]

theorem executable_eq (hkind : decl.kind.isExecutable = true) : p.executable d = .ok decl := by
  rw [executable, declaration_eq h]
  exact if_pos hkind

theorem parametersOf_eq (hkind : decl.kind.isExecutable = true) :
    p.parametersOf d = .ok decl.parameters := by
  rw [parametersOf, executable_eq h hkind]
  rfl

theorem returnTypeOf_eq (hkind : decl.kind.isExecutable = true) :
    p.returnTypeOf d = .ok (decl.returns?.getD TypeId.void) := by
  rw [returnTypeOf, executable_eq h hkind]
  rfl

end Known

/-! ## Types -/

/-- Messages name a known type by the last segment of its name. -/
theorem simpleTypeName_eq {t : TypeId} {name : String} (h : p.typeName t = .ok name) :
    p.simpleTypeName t = .ok (lastSegment name) := by
  rw [simpleTypeName, h]
  rfl

/-! ## Attachments -/

/-- Whether an attachment of a program is of an annotation type. -/
def isOfType (p : Program) (type : TypeId) (a : AttachmentId) : Bool :=
  p.attachments[a]?.any fun attached => attached.type = type

/-- Whether a declaration of a program carries an annotation type. -/
def wears (p : Program) (type : TypeId) (d : DeclId) : Bool :=
  p.declarations[d]?.any fun decl => decl.attachments.any (p.isOfType type)

/-- What carries an annotation type is a declaration. -/
theorem lt_of_wears {type : TypeId} (h : p.wears type d = true) : d < p.declarations.length := by
  obtain ⟨decl, hdecl, -⟩ := (Option.any_eq_true _ _).1 h
  exact (List.getElem?_eq_some_iff.1 hdecl).1

theorem declaration_eq_ok_iff : p.declaration d = .ok decl ↔ p.declarations[d]? = some decl := by
  unfold declaration
  cases p.declarations[d]? <;> simp

theorem attachment_eq_ok_iff {a : AttachmentId} {attached : Attachment} :
    p.attachment a = .ok attached ↔ p.attachments[a]? = some attached := by
  unfold attachment
  cases p.attachments[a]? <;> simp

theorem attachment_eq {a : AttachmentId} {attached : Attachment}
    (h : p.attachments[a]? = some attached) : p.attachment a = .ok attached :=
  attachment_eq_ok_iff.2 h

theorem firstOfType_eq {as : List AttachmentId}
    (h : ∀ a ∈ as, ∃ attached, p.attachments[a]? = some attached) (type : TypeId) :
    p.firstOfType type as = .ok (as.find? (p.isOfType type)) := by
  induction as with
  | nil => rfl
  | cons a rest ih =>
      obtain ⟨attached, ha⟩ := h a List.mem_cons_self
      have hrest := ih fun b hb => h b (List.mem_cons_of_mem a hb)
      rw [firstOfType, attachment_eq ha]
      change (if attached.type = type then .ok (some a) else p.firstOfType type rest) = _
      rw [hrest, List.find?_cons, isOfType, ha, Option.any_some]
      by_cases htype : attached.type = type <;> simp [htype]

/-- The first attachment of a type is one of those that are asked about. -/
theorem mem_of_firstOfType {type : TypeId} {as : List AttachmentId} {a : AttachmentId}
    (h : p.firstOfType type as = .ok (some a)) :
    a ∈ as ∧ ∃ attached, p.attachment a = .ok attached ∧ attached.type = type := by
  induction as with
  | nil => simp [firstOfType] at h
  | cons b rest ih =>
      obtain ⟨attached, hattached, h⟩ := bind_eq_ok_iff.1 h
      split at h
      case isTrue htype =>
          obtain rfl : b = a := by simpa using h
          exact ⟨List.mem_cons_self, attached, hattached, htype⟩
      case isFalse => exact (ih h).imp_left (List.mem_cons_of_mem b)

section Known

variable (h : p.declarations[d]? = some decl)
  (hattached : ∀ a ∈ decl.attachments, ∃ attached, p.attachments[a]? = some attached)
include h hattached

theorem findAttachment_eq (type : TypeId) :
    p.findAttachment d type = .ok (decl.attachments.find? (p.isOfType type)) := by
  rw [findAttachment, attachmentsOf_eq h]
  exact firstOfType_eq hattached type

theorem hasAttachment_eq (type : TypeId) : p.hasAttachment d type = .ok (p.wears type d) := by
  rw [hasAttachment, findAttachment_eq h hattached, wears, h, Option.any_some,
    ← List.isSome_find?]
  rfl

end Known

/-- A declaration has an attachment of the annotation types that it carries. One that is not there
has none, and carries none. -/
theorem hasAttachment_eq_true_iff
    (hattached : ∀ decl, p.declarations[d]? = some decl →
      ∀ a ∈ decl.attachments, ∃ attached, p.attachments[a]? = some attached) (type : TypeId) :
    p.hasAttachment d type = .ok true ↔ p.wears type d = true := by
  cases h : p.declarations[d]? with
  | none =>
      rw [wears, h]
      simp [hasAttachment, findAttachment, attachmentsOf, declaration, h, bind, Except.bind,
        Except.map]
  | some decl => rw [hasAttachment_eq h (hattached decl h), Except.ok.injEq]

end Program

end ModContracts
