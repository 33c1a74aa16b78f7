import ModContracts.Proofs.Program.Naming
import ModContracts.Proofs.Program.Queries
import ModContracts.Program.Subtyping

/-!
# Well-formed programs

What the rules rely on when they ask a program: every id that a table or an index holds leads to an
entry of the kind it is read as. In a well-formed program a query fails only for a declaration that
has not the part it asks for.

* `Program.WellFormed` — the tables and indexes fit together;
* `Program.WellFormed.typeOf`, `Program.WellFormed.owner` and others — the queries that then have an
  answer;
* `Program.WellFormed.hasAttachment_eq`, `Program.WellFormed.mem_carriersOf_iff` — which declarations
  carry an annotation type.
-/

namespace ModContracts

namespace Program

/-- A known type is the same as no other one. -/
theorem isSameType_iff {p : Program} {a b : TypeId} {name : String}
    (h : p.typeName b = .ok name) : p.isSameType a b = true ↔ a = b := by
  unfold typeName at h
  unfold isSameType typeKind?
  cases hb : p.types[b]? with
  | none => simp [hb] at h
  | some entry =>
      rw [Bool.and_eq_true, decide_eq_true_eq]
      refine and_iff_left_of_imp fun heq => ?_
      rw [heq, hb]
      rfl

/-- The tables and indexes of a program fit together. -/
structure WellFormed (p : Program) : Prop where
  indexed : p.Indexed
  /-- The members of a declaration are the declarations inside it, by increasing id. -/
  sorted : ∀ {d : DeclId} {decl : Declaration}, p.declarations[d]? = some decl →
    decl.members.Pairwise (· < ·)
  members : ∀ {d : DeclId} {decl : Declaration}, p.declarations[d]? = some decl → ∀ e : DeclId,
    e ∈ decl.members ↔
      ∃ member : Declaration, p.declarations[e]? = some member ∧ member.enclosing? = some d
  /-- What is listed on a declaration is there and belongs to it. -/
  attachments : ∀ {d : DeclId} {decl : Declaration}, p.declarations[d]? = some decl →
    ∀ a ∈ decl.attachments, ∃ attached : Attachment,
      p.attachments[a]? = some attached ∧ attached.owner = d
  /-- A declaration stands inside a type declaration or at the top. -/
  enclosing : ∀ {d owner : DeclId} {decl : Declaration}, p.declarations[d]? = some decl →
    decl.enclosing? = some owner → ∃ around : Declaration,
      p.declarations[owner]? = some around ∧ around.kind.isType = true
  /-- Only type declarations stand at the top. -/
  enclosed : ∀ {d : DeclId} {decl : Declaration}, p.declarations[d]? = some decl →
    decl.kind.isType = false → ∃ owner, decl.enclosing? = some owner
  /-- A type declaration introduces a known type, and a field is of one. -/
  typed : ∀ {d : DeclId} {decl : Declaration}, p.declarations[d]? = some decl →
    decl.kind.isExecutable = false → ∃ t name, decl.type? = some t ∧ p.typeName t = .ok name
  /-- A type is introduced by the one declaration that declares it. -/
  introducing : ∀ t d, p.introducing? t = some d ↔
    ∃ decl : Declaration, p.declarations[d]? = some decl ∧ decl.introduced? = some t
  /-- The carriers of an annotation type are listed by increasing id, each once. -/
  carriersOf : ∀ t, p.carriersOf t = (List.range p.declarations.length).filter (p.wears t)

namespace WellFormed

variable {p : Program} {d : DeclId} {decl : Declaration} (hp : p.WellFormed)
include hp

/-- The declaration around a member, with the type it introduces. -/
theorem owner (h : p.declarations[d]? = some decl) (hkind : decl.kind.isType = false) :
    ∃ owner around t name, decl.enclosing? = some owner ∧
      p.declarations[owner]? = some around ∧ p.typeOf owner = .ok t ∧ p.typeName t = .ok name := by
  obtain ⟨owner, howner⟩ := hp.enclosed h hkind
  obtain ⟨around, haround, htype⟩ := hp.enclosing h howner
  obtain ⟨t, name, ht, hname⟩ := hp.typed haround (Kind.not_isExecutable_of_isType htype)
  exact ⟨owner, around, t, name, howner, haround, typeOf_eq haround ht, hname⟩

theorem exists_attachment (h : p.declarations[d]? = some decl) :
    ∀ a ∈ decl.attachments, ∃ attached, p.attachments[a]? = some attached :=
  fun a ha => (hp.attachments h a ha).imp fun _ hattached => hattached.1

theorem findAttachment_eq (h : p.declarations[d]? = some decl) (type : TypeId) :
    p.findAttachment d type = .ok (decl.attachments.find? (p.isOfType type)) :=
  Program.findAttachment_eq h (hp.exists_attachment h) type

theorem hasAttachment_eq (h : p.declarations[d]? = some decl) (type : TypeId) :
    p.hasAttachment d type = .ok (p.wears type d) :=
  Program.hasAttachment_eq h (hp.exists_attachment h) type

/-- The carriers of an annotation type are the declarations that have an attachment of it. -/
theorem mem_carriersOf_iff {type : TypeId} :
    d ∈ p.carriersOf type ↔ p.hasAttachment d type = .ok true := by
  rw [hasAttachment_eq_true_iff fun _ h => hp.exists_attachment h, hp.carriersOf, List.mem_filter,
    List.mem_range]
  exact and_iff_right_of_imp lt_of_wears

end WellFormed

end Program

end ModContracts
