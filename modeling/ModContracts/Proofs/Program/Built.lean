import ModContracts.Proofs.Program.Growth
import ModContracts.Proofs.Program.Naming

/-!
# Programs that can be built

An edit makes a program grow in a few elementary steps: a type name is registered, a supertype
added, a declaration entered and made the declaration of its type, a location set, an attachment
affixed. A fact that the initial program has and that every such step keeps is a fact about all
programs that edits lead to.

* `Program.Built` — the programs that elementary steps lead to, for inductions;
* `Program.Built.perform` — an edit that is allowed takes such steps;
* `Program.built_of_applyAll` — edits in a row, unless one of them is refused.
-/

namespace ModContracts

namespace Program

/-- A program that elementary steps lead to from the initial one. A step may name types that the
program does not know, but no declaration and no attachment that is not there. The one exception
is a new declaration, which may stand in itself. -/
inductive Built : Program → Prop where
  | initial : Built .initial
  | register {p : Program} (h : Built p) (name : String) : Built (p.register name .declared).1
  | addSupertype {p : Program} (h : Built p) (type super : TypeId) :
      Built (p.addSupertype type super)
  /-- A new declaration has nothing in it and nothing on it. -/
  | declare {p : Program} (h : Built p) (decl : Declaration) (hmembers : decl.members = [])
      (hattachments : decl.attachments = [])
      (howner : ∀ owner, decl.enclosing? = some owner → owner ≤ p.declarations.length) :
      Built (p.declare decl).1
  /-- A declaration becomes that of its type, whichever was before. -/
  | introduce {p : Program} (h : Built p) {d : DeclId} {decl : Declaration} {type : TypeId}
      (hdecl : p.declarations[d]? = some decl) (htype : decl.type? = some type) :
      Built { p with introducedBy := p.introducedBy.put type d }
  | setLocation {p : Program} (h : Built p) (d : DeclId) (location : Location) :
      Built (p.setLocation d location)
  | affix {p : Program} (h : Built p) (attached : Attachment)
      (howner : attached.owner < p.declarations.length) : Built (p.affix attached)
  | setAttachmentLocation {p : Program} (h : Built p) (a : AttachmentId)
      (location? : Option Location) (valueLocations : List (String × Location)) :
      Built (p.setAttachmentLocation a location? valueLocations)

/-! ## Types of a program leave the rest alone -/

theorem declarations_register (p : Program) (name : String) (kind : TypeKind) :
    (p.register name kind).1.declarations = p.declarations := by
  unfold register
  split <;> rfl

theorem declarations_addSupertypes (p : Program) (type : TypeId) (supers : List TypeId) :
    (p.addSupertypes type supers).declarations = p.declarations := by
  induction supers generalizing p with
  | nil => rfl
  | cons super rest ih => exact ih (p.addSupertype type super)

theorem declarations_declareType (p : Program) (name : String) (supers : List TypeId) :
    (p.declareType name supers).1.declarations = p.declarations :=
  (declarations_addSupertypes _ _ supers).trans (declarations_register p name .declared)

/-! ## Edits -/

section Runs

variable {p q : Program}

theorem applyAll_cons_eq_some_iff {e : Edit} {rest : List Edit} :
    p.applyAll (e :: rest) = some q ↔
      e.allowed p = true ∧ (p.perform e).1.applyAll rest = some q := by
  rw [applyAll, apply]
  by_cases h : e.allowed p = true <;> simp [h]

theorem applyAll_append_eq_some_iff {before after : List Edit} :
    p.applyAll (before ++ after) = some q ↔
      ∃ r, p.applyAll before = some r ∧ r.applyAll after = some q := by
  induction before generalizing p with
  | nil => simp [applyAll]
  | cons e rest ih =>
      rw [List.cons_append, applyAll_cons_eq_some_iff, ih]
      simp only [applyAll_cons_eq_some_iff, and_assoc, exists_and_left]

end Runs

namespace Built

variable {p q : Program}

theorem addSupertypes (h : p.Built) (type : TypeId) (supers : List TypeId) :
    (p.addSupertypes type supers).Built := by
  induction supers generalizing p with
  | nil => exact h
  | cons super rest ih => exact ih (h.addSupertype type super)

theorem declareType (h : p.Built) (name : String) (supers : List TypeId) :
    (p.declareType name supers).1.Built :=
  (h.register name).addSupertypes _ supers

/-- A declaration is entered first, and then becomes that of its type. -/
theorem declareIntroducing (h : p.Built) (decl : Declaration) {type : TypeId}
    (hmembers : decl.members = []) (hattachments : decl.attachments = [])
    (howner : ∀ owner, decl.enclosing? = some owner → owner ≤ p.declarations.length)
    (htype : decl.type? = some type) :
    Built { (p.declare decl).1 with
      introducedBy := (p.declare decl).1.introducedBy.put type p.declarations.length } := by
  have hlast := getElem?_declare p decl p.declarations.length
  rw [List.getElem?_concat_length, Option.map_some] at hlast
  refine (h.declare decl hmembers hattachments howner).introduce hlast ?_
  split <;> exact htype

theorem declareTypeOf (h : p.Built) (kind : Kind) (type : TypeId) (modifiers : ModifierSet)
    {enclosing? : Option DeclId}
    (howner : ∀ owner, enclosing? = some owner → owner ≤ p.declarations.length) :
    (p.declareTypeOf kind type modifiers enclosing?).1.Built :=
  h.declareIntroducing { kind, name := _, type? := some type, modifiers, enclosing? } rfl rfl howner
    rfl

theorem declareMember (h : p.Built) (decl : Declaration) {owner : DeclId}
    (hmembers : decl.members = []) (hattachments : decl.attachments = [])
    (henclosing : decl.enclosing? = some owner)
    (howner : decide (owner ≤ p.declarations.length) = true) : (p.declare decl).1.Built := by
  refine h.declare decl hmembers hattachments fun around haround => ?_
  obtain rfl : owner = around := Option.some.inj (henclosing.symm.trans haround)
  exact of_decide_eq_true howner

/-- An edit that is allowed takes elementary steps. -/
theorem perform (h : p.Built) {e : Edit} (hallowed : e.allowed p = true) :
    (p.perform e).1.Built := by
  cases e with
  | declareType name supers => exact h.declareType name supers
  | addSupertype type super => exact h.addSupertype type super
  | declareTypeOf kind type modifiers enclosing? =>
      simp only [Edit.allowed, Bool.and_eq_true, Option.all_eq_true, decide_eq_true_eq] at hallowed
      exact h.declareTypeOf kind type modifiers hallowed.2
  | declareClass owner? name supers modifiers =>
      simp only [Edit.allowed, Option.all_eq_true, decide_eq_true_eq] at hallowed
      -- the class is declared in a program with one more type, but no more declarations
      refine (h.declareType name supers).declareTypeOf .classType _ modifiers ?_
      rwa [declarations_declareType]
  | declareMethod owner name modifiers parameters returns =>
      change (p.declareMethod owner name modifiers parameters returns).1.Built
      exact h.declareMember _ rfl rfl rfl hallowed
  | declareConstructor owner modifiers parameters =>
      change (p.declareConstructor owner modifiers parameters).1.Built
      exact h.declareMember _ rfl rfl rfl hallowed
  | declareField owner name modifiers type =>
      change (p.declareField owner name modifiers type).1.Built
      exact h.declareMember _ rfl rfl rfl hallowed
  | attach d type values =>
      have hd : d < p.declarations.length := of_decide_eq_true hallowed
      exact h.affix { owner := d, type, values } hd
  | setLocation d location => exact h.setLocation d location
  | setAttachmentLocation a location? valueLocations =>
      exact h.setAttachmentLocation a location? valueLocations

theorem applyAll (h : p.Built) {edits : List Edit} (hq : p.applyAll edits = some q) : q.Built := by
  induction edits generalizing p with
  | nil =>
      obtain rfl : p = q := by simpa [Program.applyAll] using hq
      exact h
  | cons e rest ih =>
      obtain ⟨hallowed, hrest⟩ := applyAll_cons_eq_some_iff.1 hq
      exact ih (h.perform hallowed) hrest

end Built

/-- Edits build programs, unless one of them is refused. -/
theorem built_of_applyAll {p : Program} {edits : List Edit}
    (h : Program.initial.applyAll edits = some p) : p.Built :=
  Built.initial.applyAll h

end Program

end ModContracts
