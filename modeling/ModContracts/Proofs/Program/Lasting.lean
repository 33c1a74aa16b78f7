import ModContracts.Proofs.Program.Assignability

/-!
# What lasts while a program is built

An edit adds to a program and takes nothing back. What was known stays known under its id, lists grow at
their ends, and what one type was to another it stays, since supertypes and names of types are only
added. Locations alone are set anew, each by the edit that is made for it.

* `Retained` — each entry of a table is still in its place in a later one;
* `Program.GrowsInto` — a program whose tables and indexes retain those of another;
  `Program.growsInto_perform` — as they do after every edit;
* `Program.GrowsInto.below`, `Program.GrowsInto.assignable` — relations between types last;
* `Program.locationOf?_perform`, `Program.attachment_perform` — the edits that set no location;
* `Program.LastsOver` — what lasts of a program over some edits; `Program.LastsOver.trans`;
* `Program.lastsOver_of_apply` — all of it lasts over every edit, and over edits in a row.
-/

namespace ModContracts

/-! ## Tables -/

/-- Each entry of a table is still in its place in a later one, changed at most as a relation allows. -/
def Retained {α : Type} (R : α → α → Prop) (xs ys : List α) : Prop :=
  ∀ (i : Nat) (x : α), xs[i]? = some x → ∃ y, ys[i]? = some y ∧ R x y

namespace Retained

variable {α : Type} {R : α → α → Prop} {xs ys zs : List α}

theorem refl (hR : ∀ x, R x x) (xs : List α) : Retained R xs xs :=
  fun _ x hx => ⟨x, hx, hR x⟩

theorem trans (hR : ∀ {x y z}, R x y → R y z → R x z) (hxy : Retained R xs ys)
    (hyz : Retained R ys zs) : Retained R xs zs := by
  intro i x hx
  obtain ⟨y, hy, hxy⟩ := hxy i x hx
  obtain ⟨z, hz, hyz⟩ := hyz i y hy
  exact ⟨z, hz, hR hxy hyz⟩

theorem append (hR : ∀ x, R x x) (xs ys : List α) : Retained R xs (xs ++ ys) := by
  intro i x hx
  have hlt : i < xs.length := (List.getElem?_eq_some_iff.1 hx).1
  exact ⟨x, (List.getElem?_append_left hlt).trans hx, hR x⟩

theorem modify {f : α → α} (hR : ∀ x, R x x) (hf : ∀ x, R x (f x)) (xs : List α) (i : Nat) :
    Retained R xs (xs.modify i f) := by
  intro j x hx
  rw [List.getElem?_modify, hx]
  by_cases hij : i = j
  · exact ⟨f x, by simp [hij], hf x⟩
  · exact ⟨x, by simp [hij], hR x⟩

end Retained

/-! ## Entries -/

/-- A type keeps its name and its kind, and may get more supertypes. -/
structure TypeEntry.Keeps (entry later : TypeEntry) : Prop where
  name : later.name = entry.name
  kind : later.kind = entry.kind
  supertypes : entry.supertypes <+: later.supertypes

/-- A declaration keeps all that it was declared with, and may get more members and attachments. Where
it was written is another matter. -/
structure Declaration.Keeps (decl later : Declaration) : Prop where
  kind : later.kind = decl.kind
  name : later.name = decl.name
  type : later.type? = decl.type?
  modifiers : later.modifiers = decl.modifiers
  enclosing : later.enclosing? = decl.enclosing?
  members : decl.members <+: later.members
  parameters : later.parameters = decl.parameters
  returns : later.returns? = decl.returns?
  attachments : decl.attachments <+: later.attachments

/-- An attachment keeps all that it was made with. Where it was written is another matter. -/
structure Attachment.Keeps (attached later : Attachment) : Prop where
  owner : later.owner = attached.owner
  type : later.type = attached.type
  values : later.values = attached.values

theorem TypeEntry.Keeps.refl (entry : TypeEntry) : entry.Keeps entry :=
  ⟨rfl, rfl, List.prefix_refl _⟩

theorem TypeEntry.Keeps.trans {a b c : TypeEntry} (hab : a.Keeps b) (hbc : b.Keeps c) : a.Keeps c :=
  ⟨hbc.name.trans hab.name, hbc.kind.trans hab.kind, hab.supertypes.trans hbc.supertypes⟩

theorem Declaration.Keeps.refl (decl : Declaration) : decl.Keeps decl :=
  ⟨rfl, rfl, rfl, rfl, rfl, List.prefix_refl _, rfl, rfl, List.prefix_refl _⟩

theorem Declaration.Keeps.trans {a b c : Declaration} (hab : a.Keeps b) (hbc : b.Keeps c) :
    a.Keeps c where
  kind := hbc.kind.trans hab.kind
  name := hbc.name.trans hab.name
  type := hbc.type.trans hab.type
  modifiers := hbc.modifiers.trans hab.modifiers
  enclosing := hbc.enclosing.trans hab.enclosing
  members := hab.members.trans hbc.members
  parameters := hbc.parameters.trans hab.parameters
  returns := hbc.returns.trans hab.returns
  attachments := hab.attachments.trans hbc.attachments

theorem Attachment.Keeps.refl (attached : Attachment) : attached.Keeps attached :=
  ⟨rfl, rfl, rfl⟩

theorem Attachment.Keeps.trans {a b c : Attachment} (hab : a.Keeps b) (hbc : b.Keeps c) :
    a.Keeps c :=
  ⟨hbc.owner.trans hab.owner, hbc.type.trans hab.type, hbc.values.trans hab.values⟩

namespace Program

variable {p q r : Program} {a b t : TypeId} {d : DeclId} {e : Edit} {edits more : List Edit}

/-! ## Growth of a program -/

/-- The tables and indexes of a program retain those of another. -/
structure GrowsInto (p q : Program) : Prop where
  types : Retained TypeEntry.Keeps p.types q.types
  typeIds : ∀ {name : String} {t : TypeId}, p.typeId? name = some t → q.typeId? name = some t
  declarations : Retained Declaration.Keeps p.declarations q.declarations
  attachments : Retained Attachment.Keeps p.attachments q.attachments
  carriersOf : ∀ type, p.carriersOf type <+: q.carriersOf type

namespace GrowsInto

theorem refl (p : Program) : p.GrowsInto p where
  types := .refl TypeEntry.Keeps.refl p.types
  typeIds := id
  declarations := .refl Declaration.Keeps.refl p.declarations
  attachments := .refl Attachment.Keeps.refl p.attachments
  carriersOf type := List.prefix_refl (p.carriersOf type)

theorem trans (hpq : p.GrowsInto q) (hqr : q.GrowsInto r) : p.GrowsInto r where
  types := hpq.types.trans TypeEntry.Keeps.trans hqr.types
  typeIds ht := hqr.typeIds (hpq.typeIds ht)
  declarations := hpq.declarations.trans Declaration.Keeps.trans hqr.declarations
  attachments := hpq.attachments.trans Attachment.Keeps.trans hqr.attachments
  carriersOf type := (hpq.carriersOf type).trans (hqr.carriersOf type)

end GrowsInto

/-! ### Types -/

theorem growsInto_register (p : Program) (name : String) (kind : TypeKind) :
    p.GrowsInto (p.register name kind).1 := by
  unfold register
  split
  case h_1 => exact .refl p
  case h_2 hnone =>
      refine { GrowsInto.refl p with
        types := .append TypeEntry.Keeps.refl _ _
        typeIds := fun {other t} ht => ?_ }
      have hne : name ≠ other := by
        rintro rfl
        simp [hnone] at ht
      rw [typeId?, Keyed.find?_put, if_neg hne]
      exact ht

theorem growsInto_addSupertype (p : Program) (type super : TypeId) :
    p.GrowsInto (p.addSupertype type super) := by
  refine { GrowsInto.refl p with types := .modify TypeEntry.Keeps.refl (fun entry => ?_) _ _ }
  split
  case isTrue => exact .refl entry
  case isFalse => exact ⟨rfl, rfl, List.prefix_append _ _⟩

theorem growsInto_addSupertypes (p : Program) (type : TypeId) (supers : List TypeId) :
    p.GrowsInto (p.addSupertypes type supers) := by
  induction supers generalizing p with
  | nil => exact .refl p
  | cons super rest ih => exact (p.growsInto_addSupertype type super).trans (ih _)

theorem growsInto_declareType (p : Program) (name : String) (supers : List TypeId) :
    p.GrowsInto (p.declareType name supers).1 :=
  (p.growsInto_register name .declared).trans (growsInto_addSupertypes _ _ supers)

/-! ### Declarations -/

theorem growsInto_declare (p : Program) (decl : Declaration) :
    p.GrowsInto (p.declare decl).1 := by
  have happend : Retained Declaration.Keeps p.declarations (p.declarations ++ [decl]) :=
    .append Declaration.Keeps.refl _ _
  refine { GrowsInto.refl p with declarations := ?_ }
  unfold declare
  cases decl.enclosing? with
  | none => exact happend
  | some owner =>
      refine happend.trans Declaration.Keeps.trans (.modify Declaration.Keeps.refl ?_ _ _)
      intro around
      exact { Declaration.Keeps.refl around with members := List.prefix_append _ _ }

theorem growsInto_declareTypeOf (p : Program) (kind : Kind) (type : TypeId) (modifiers : ModifierSet)
    (enclosing? : Option DeclId) :
    p.GrowsInto (p.declareTypeOf kind type modifiers enclosing?).1 :=
  { p.growsInto_declare { kind, name := _, type? := some type, modifiers, enclosing? } with }

theorem growsInto_setLocation (p : Program) (d : DeclId) (location : Location) :
    p.GrowsInto (p.setLocation d location) := by
  refine { GrowsInto.refl p with declarations := .modify Declaration.Keeps.refl ?_ _ _ }
  intro decl
  exact { Declaration.Keeps.refl decl with }

/-! ### Attachments -/

theorem growsInto_affix (p : Program) (attached : Attachment) : p.GrowsInto (p.affix attached) where
  types := by
    rw [types_affix]
    exact .refl TypeEntry.Keeps.refl p.types
  typeIds {name t} ht := by rwa [typeId?, typeIds_affix]
  declarations := by
    rw [declarations_affix]
    refine .modify Declaration.Keeps.refl (fun decl => ?_) _ _
    exact { Declaration.Keeps.refl decl with attachments := List.prefix_append _ _ }
  attachments := by
    rw [attachments_affix]
    exact .append Attachment.Keeps.refl _ _
  carriersOf type := by
    rw [carriersOf_affix]
    split
    · exact List.prefix_append _ _
    · exact List.prefix_refl _

theorem growsInto_setAttachmentLocation (p : Program) (a : AttachmentId)
    (location? : Option Location) (valueLocations : List (String × Location)) :
    p.GrowsInto (p.setAttachmentLocation a location? valueLocations) := by
  refine { GrowsInto.refl p with attachments := .modify Attachment.Keeps.refl ?_ _ _ }
  intro attached
  exact ⟨rfl, rfl, rfl⟩

/-! ### Edits -/

/-- Every edit makes a program grow into another one. -/
theorem growsInto_perform (p : Program) (e : Edit) : p.GrowsInto (p.perform e).1 := by
  cases e with
  | declareType name supers => exact p.growsInto_declareType name supers
  | addSupertype type super => exact p.growsInto_addSupertype type super
  | declareTypeOf kind type modifiers enclosing? =>
      exact p.growsInto_declareTypeOf kind type modifiers enclosing?
  | declareClass owner? name supers modifiers =>
      exact (p.growsInto_declareType name supers).trans (growsInto_declareTypeOf _ _ _ _ _)
  | declareMethod owner name modifiers parameters returns =>
      change p.GrowsInto (p.declareMethod owner name modifiers parameters returns).1
      exact p.growsInto_declare _
  | declareConstructor owner modifiers parameters =>
      change p.GrowsInto (p.declareConstructor owner modifiers parameters).1
      exact p.growsInto_declare _
  | declareField owner name modifiers type =>
      change p.GrowsInto (p.declareField owner name modifiers type).1
      exact p.growsInto_declare _
  | attach d type values => exact p.growsInto_affix { owner := d, type, values }
  | setLocation d location => exact p.growsInto_setLocation d location
  | setAttachmentLocation a location? valueLocations =>
      exact p.growsInto_setAttachmentLocation a location? valueLocations

/-! ## Relations between types -/

namespace GrowsInto

variable (h : p.GrowsInto q)
include h

theorem typeKind? {kind : TypeKind} (ht : p.typeKind? t = some kind) : q.typeKind? t = some kind := by
  obtain ⟨entry, hentry, rfl⟩ := Option.map_eq_some_iff.1 ht
  obtain ⟨later, hlater, hkeeps⟩ := h.types t entry hentry
  rw [Program.typeKind?, hlater, Option.map_some, hkeeps.kind]

theorem typeName {name : String} (ht : p.typeName t = .ok name) : q.typeName t = .ok name := by
  unfold Program.typeName at ht
  split at ht
  case h_1 entry hentry =>
      obtain ⟨later, hlater, hkeeps⟩ := h.types t entry hentry
      rw [Program.typeName, hlater, ← Except.ok.inj ht, ← hkeeps.name]
  case h_2 => cases ht

/-- Declared supertypes stay. -/
theorem extends_of (hab : p.Extends a b) : q.Extends a b := by
  unfold Extends supertypesOf at hab
  split at hab
  case h_1 entry hentry =>
      obtain ⟨later, hlater, hkeeps⟩ := h.types a entry hentry
      rw [Extends, supertypesOf, hlater]
      exact hkeeps.supertypes.subset hab
  case h_2 => cases hab

theorem below (hab : p.Below a b) : q.Below a b := by
  cases hab with
  | void ha hb => exact .void (h.typeKind? ha) (h.typeKind? hb)
  | primitive ha hb hwidens => exact .primitive (h.typeKind? ha) (h.typeKind? hb) hwidens
  | declared ha hb habove =>
      refine .declared (h.typeKind? ha) (h.typeKind? hb) (habove.imp id fun hchain => ?_)
      exact Relation.ReflTransGen.mono (fun _ _ => h.extends_of) _ _ hchain

/-- A box class that is found stays, and one that comes later adds conversions only. -/
theorem assignable (hab : p.Assignable a b) : q.Assignable a b := by
  cases hab with
  | below hab => exact .below (h.below hab)
  | boxing ha hb hbox hab =>
      exact .boxing (h.typeKind? ha) (h.typeKind? hb) (h.typeIds hbox) (h.below hab)
  | unboxing ha hb hbox hwidens =>
      exact .unboxing (h.typeKind? ha) (h.typeKind? hb) (h.typeIds hbox) hwidens

theorem isSameType (hab : p.isSameType a b = true) : q.isSameType a b = true := by
  rw [Program.isSameType, Bool.and_eq_true, Option.isSome_iff_exists] at hab ⊢
  exact hab.imp_right fun ⟨kind, hkind⟩ => ⟨kind, h.typeKind? hkind⟩

end GrowsInto

/-! ## Locations -/

/-- Where each declaration was written. -/
def locations (p : Program) : List (Option Location) :=
  p.declarations.map Declaration.location?

theorem locationOf?_eq_join (p : Program) (d : DeclId) : p.locationOf? d = p.locations[d]?.join := by
  rw [locationOf?, locations, List.getElem?_map]
  cases p.declarations[d]? <;> rfl

theorem locationOf?_congr (h : q.locations = p.locations) (d : DeclId) :
    q.locationOf? d = p.locationOf? d := by
  rw [locationOf?_eq_join, locationOf?_eq_join, h]

/-- A new declaration was written nowhere yet. -/
theorem locationOf?_declare (p : Program) {decl : Declaration} (h : decl.location? = none)
    (d : DeclId) : (p.declare decl).1.locationOf? d = p.locationOf? d := by
  have hlocations : (p.declare decl).1.locations = p.locations ++ [none] := by
    rw [locations, map_declare (fun _ _ => rfl), h, locations]
  rw [locationOf?_eq_join, locationOf?_eq_join, hlocations, getElem?_concat_eq_ite]
  by_cases hd : d = p.locations.length
  · simp [hd]
  · rw [if_neg hd]

/-- An edit that does not set the location of a declaration leaves it where it is. -/
theorem locationOf?_perform (h : ∀ location, e ≠ .setLocation d location) :
    (p.perform e).1.locationOf? d = p.locationOf? d := by
  cases e with
  | declareType name supers =>
      refine locationOf?_congr ?_ d
      exact congrArg (List.map _) (declarations_declareType p name supers)
  | declareTypeOf kind type modifiers enclosing? => exact locationOf?_declare p rfl d
  | declareClass owner? name supers modifiers =>
      refine (locationOf?_declare (p.declareType name supers).1 rfl d).trans ?_
      refine locationOf?_congr ?_ d
      exact congrArg (List.map _) (declarations_declareType p name supers)
  | declareMethod owner name modifiers parameters returns =>
      change (p.declareMethod owner name modifiers parameters returns).1.locationOf? d = _
      exact locationOf?_declare p rfl d
  | declareConstructor owner modifiers parameters =>
      change (p.declareConstructor owner modifiers parameters).1.locationOf? d = _
      exact locationOf?_declare p rfl d
  | declareField owner name modifiers type =>
      change (p.declareField owner name modifiers type).1.locationOf? d = _
      exact locationOf?_declare p rfl d
  | attach d' type values =>
      refine locationOf?_congr ?_ d
      change List.map _ (p.affix { owner := d', type, values }).declarations = _
      rw [declarations_affix]
      refine map_modify_eq_map ?_ _ _
      exact fun _ => rfl
  | setLocation d' location =>
      have hne : d' ≠ d := by
        rintro rfl
        exact h location rfl
      simp [perform, Program.setLocation, locationOf?, hne]
  | addSupertype type super => rfl
  | setAttachmentLocation a location? valueLocations => rfl

theorem attachments_declareType (p : Program) (name : String) (supers : List TypeId) :
    (p.declareType name supers).1.attachments = p.attachments := by
  have hsupers (type : TypeId) (p : Program) : (p.addSupertypes type supers).attachments =
      p.attachments := by
    induction supers generalizing p with
    | nil => rfl
    | cons super rest ih => exact ih (p.addSupertype type super)
  have hname : (p.register name .declared).1.attachments = p.attachments := by
    unfold register
    split <;> rfl
  exact (hsupers _ _).trans hname

/-- An edit that does not set the location of an attachment leaves all of it as it is. -/
theorem attachment_perform {a : AttachmentId} {attached : Attachment}
    (h : ∀ location? valueLocations, e ≠ .setAttachmentLocation a location? valueLocations)
    (ha : p.attachment a = .ok attached) : (p.perform e).1.attachment a = .ok attached := by
  rw [attachment_eq_ok_iff] at ha ⊢
  cases e with
  | attach d type values =>
      change (p.affix { owner := d, type, values }).attachments[a]? = _
      rw [attachments_affix, List.getElem?_append_left (List.getElem?_eq_some_iff.1 ha).1, ha]
  | setAttachmentLocation a' location? valueLocations =>
      have hne : a' ≠ a := by
        rintro rfl
        exact h location? valueLocations rfl
      simp [perform, Program.setAttachmentLocation, hne, ha]
  | declareType name supers =>
      change (p.declareType name supers).1.attachments[a]? = _
      rw [attachments_declareType, ha]
  | declareClass owner? name supers modifiers =>
      change (p.declareType name supers).1.attachments[a]? = _
      rw [attachments_declareType, ha]
  | _ => exact ha

/-! ## What lasts -/

/-- What lasts of a program over edits that lead to another one. -/
structure LastsOver (p : Program) (edits : List Edit) (q : Program) : Prop where
  isSubtype : ∀ a b, p.isSubtype a b = true → q.isSubtype a b = true
  isAssignable : ∀ a b, p.isAssignable a b = true → q.isAssignable a b = true
  isSameType : ∀ a b, p.isSameType a b = true → q.isSameType a b = true
  typeName : ∀ t name, p.typeName t = .ok name → q.typeName t = .ok name
  typeKind : ∀ t kind, p.typeKind? t = some kind → q.typeKind? t = some kind
  typeId : ∀ name t, p.typeId? name = some t → q.typeId? name = some t
  /-- Members and attachments are added at the end, and nothing else changes. -/
  declaration : ∀ d decl, p.declaration d = .ok decl →
    ∃ later, q.declaration d = .ok later ∧ decl.Keeps later
  carriersOf : ∀ type, p.carriersOf type <+: q.carriersOf type
  attachment : ∀ a attached, p.attachment a = .ok attached →
    ∃ later, q.attachment a = .ok later ∧ attached.Keeps later
  /-- A declaration is where it was unless its location is set, also one that is new. -/
  location : ∀ d, (∀ location, Edit.setLocation d location ∉ edits) →
    q.locationOf? d = p.locationOf? d
  /-- An attachment is where it was, with its values, unless its location is set. -/
  attachmentLocation : ∀ a,
    (∀ location? valueLocations, Edit.setAttachmentLocation a location? valueLocations ∉ edits) →
    ∀ attached, p.attachment a = .ok attached → q.attachment a = .ok attached

namespace LastsOver

theorem refl (p : Program) : p.LastsOver [] p where
  isSubtype _ _ := id
  isAssignable _ _ := id
  isSameType _ _ := id
  typeName _ _ := id
  typeKind _ _ := id
  typeId _ _ := id
  declaration _ decl hdecl := ⟨decl, hdecl, .refl decl⟩
  carriersOf type := List.prefix_refl (p.carriersOf type)
  attachment _ attached ha := ⟨attached, ha, .refl attached⟩
  location _ _ := rfl
  attachmentLocation _ _ _ := id

theorem trans (hpq : p.LastsOver edits q) (hqr : q.LastsOver more r) :
    p.LastsOver (edits ++ more) r where
  isSubtype a b hab := hqr.isSubtype a b (hpq.isSubtype a b hab)
  isAssignable a b hab := hqr.isAssignable a b (hpq.isAssignable a b hab)
  isSameType a b hab := hqr.isSameType a b (hpq.isSameType a b hab)
  typeName t name ht := hqr.typeName t name (hpq.typeName t name ht)
  typeKind t kind ht := hqr.typeKind t kind (hpq.typeKind t kind ht)
  typeId name t ht := hqr.typeId name t (hpq.typeId name t ht)
  declaration d decl hdecl := by
    obtain ⟨later, hlater, hkeeps⟩ := hpq.declaration d decl hdecl
    obtain ⟨last, hlast, hkeeps'⟩ := hqr.declaration d later hlater
    exact ⟨last, hlast, hkeeps.trans hkeeps'⟩
  carriersOf type := (hpq.carriersOf type).trans (hqr.carriersOf type)
  attachment a attached ha := by
    obtain ⟨later, hlater, hkeeps⟩ := hpq.attachment a attached ha
    obtain ⟨last, hlast, hkeeps'⟩ := hqr.attachment a later hlater
    exact ⟨last, hlast, hkeeps.trans hkeeps'⟩
  location d hunset := by
    simp only [List.mem_append, not_or] at hunset
    exact (hqr.location d fun l => (hunset l).2).trans (hpq.location d fun l => (hunset l).1)
  attachmentLocation a hunset attached ha := by
    simp only [List.mem_append, not_or] at hunset
    have hq := hpq.attachmentLocation a (fun l values => (hunset l values).1) attached ha
    exact hqr.attachmentLocation a (fun l values => (hunset l values).2) attached hq

end LastsOver

/-- One edit leaves what was there, whichever ids it names. -/
theorem lastsOver_perform (p : Program) (e : Edit) : p.LastsOver [e] (p.perform e).1 := by
  have h : p.GrowsInto (p.perform e).1 := p.growsInto_perform e
  exact
    { isSubtype := fun _ _ hab => isSubtype_iff.2 (h.below (isSubtype_iff.1 hab))
      isAssignable := fun _ _ hab => isAssignable_iff.2 (h.assignable (isAssignable_iff.1 hab))
      isSameType := fun _ _ => h.isSameType
      typeName := fun _ _ => h.typeName
      typeKind := fun _ _ => h.typeKind?
      typeId := fun _ _ => h.typeIds
      declaration := fun d decl hdecl => by
        simp only [declaration_eq_ok_iff] at hdecl ⊢
        exact h.declarations d decl hdecl
      carriersOf := h.carriersOf
      attachment := fun a attached ha => by
        simp only [attachment_eq_ok_iff] at ha ⊢
        exact h.attachments a attached ha
      location := fun d hunset => locationOf?_perform fun location heq =>
        hunset location (List.mem_singleton.2 heq.symm)
      attachmentLocation := fun a hunset attached ha =>
        attachment_perform (fun location? values heq =>
          hunset location? values (List.mem_singleton.2 heq.symm)) ha }

theorem lastsOver_of_applyAll (h : p.applyAll edits = some q) : p.LastsOver edits q := by
  induction edits generalizing p with
  | nil =>
      obtain rfl : p = q := by simpa [applyAll] using h
      exact .refl p
  | cons e rest ih =>
      obtain ⟨-, hrest⟩ := applyAll_cons_eq_some_iff.1 h
      exact (p.lastsOver_perform e).trans (ih hrest)

/-- Building only extends a program: what it answered lasts over every edit that is allowed, whatever
the program and the ids that the edit names, and so over edits in a row. -/
theorem lastsOver_of_apply (p : Program) :
    (∀ e q handle, p.apply e = some (q, handle) → p.LastsOver [e] q) ∧
    ∀ edits q, p.applyAll edits = some q → p.LastsOver edits q := by
  refine ⟨fun e q handle h => ?_, fun edits q => lastsOver_of_applyAll⟩
  have hone : p.applyAll [e] = some q := by simp [applyAll, h]
  exact lastsOver_of_applyAll hone

/-- A class with a method that carries an annotation. -/
def counterExample : List Edit :=
  [.declareType "java.lang.Number" [], .declareClass none "a.Counter" [11] (.ofList [.isPublic]),
    .declareMethod 0 "next" (.ofList []) [5] 11, .attach 1 12 [("step", .int 1)]]

/-- A keyword is declared again, its box class comes late, and the class is declared once more, inside
itself. -/
def counterSequel : List Edit :=
  [.declareType "int" [11], .declareType "java.lang.Integer" [11],
    .declareClass (some 0) "a.Counter" [13] (.ofList []), .attach 2 12 [], .attach 1 11 [],
    .setLocation 0 ⟨"Counter.java", 0, 7⟩]

theorem exists_lastsOver_counterSequel :
    ∃ p q r handle, Program.initial.applyAll counterExample = some p ∧
      p.applyAll counterSequel = some q ∧ q.apply (.declareType "void" [9]) = some (r, handle) ∧
      p.LastsOver counterSequel q ∧ q.LastsOver [.declareType "void" [9]] r ∧
      p.isAssignable 5 11 = false ∧ q.isAssignable 5 11 = true ∧ r.isAssignable 5 11 = true ∧
      p.introducing? 12 = some 0 ∧ q.introducing? 12 = some 2 ∧
      p.typeKind? 5 = some (.primitive .int) ∧ q.typeKind? 5 = some (.primitive .int) ∧
      p.carriersOf 12 = [1] ∧ q.carriersOf 12 = [1, 2] ∧ q.locationOf? 1 = none := by
  have hrun : ((Program.initial.applyAll counterExample).any fun p =>
      (p.applyAll counterSequel).any fun q =>
        p.isAssignable 5 11 = false ∧ q.isAssignable 5 11 = true ∧
          p.introducing? 12 = some 0 ∧ q.introducing? 12 = some 2 ∧
          p.typeKind? 5 = some (.primitive .int) ∧ p.carriersOf 12 = [1] ∧
          q.carriersOf 12 = [1, 2] ∧ p.locationOf? 1 = none) = true := by
    decide +kernel
  obtain ⟨p, hp, hrun⟩ := (Option.any_eq_true _ _).1 hrun
  obtain ⟨q, hq, hanswers⟩ := (Option.any_eq_true _ _).1 hrun
  obtain ⟨hbefore, hafter, hfirst, hsecond, hkind, hone, htwo, hplace⟩ :=
    of_decide_eq_true hanswers
  have hlasts := (lastsOver_of_apply p).2 counterSequel q hq
  obtain ⟨r, handle, hr⟩ : ∃ r handle, q.apply (.declareType "void" [9]) = some (r, handle) :=
    ⟨_, _, rfl⟩
  have hlast := (lastsOver_of_apply q).1 _ r handle hr
  exact ⟨p, q, r, handle, hp, hq, hr, hlasts, hlast, hbefore, hafter,
    hlast.isAssignable 5 11 hafter, hfirst, hsecond, hkind, hlasts.typeKind 5 _ hkind, hone, htwo,
    (hlasts.location 1 (by simp [counterSequel])).trans hplace⟩

end Program

end ModContracts
