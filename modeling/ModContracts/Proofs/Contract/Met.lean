import ModContracts.Proofs.Contract
import ModContracts.Proofs.Facts

/-!
# What requirements demand

A requirement on a declaration of a kind it applies to never faults, and its reports are clean
exactly when the declaration is as the requirement demands.

* `Requirement.Applies` — the declarations that a requirement can be asked of;
* `Requirement.Met` — what a requirement demands, with and without its advice;
* `Context.checkRequirement_settles` — checking a requirement settles whether it is met.
-/

namespace ModContracts

open Diagnostics

/-! ## Demands -/

namespace Requirement

/-- The declarations that a requirement can be asked of: those that have the parts it asks for. -/
def Applies (cx : Context) (d : DeclId) (decl : Declaration) : Requirement → Prop
  | .modifier .. | .staticIfNested | .plainConstructor => True
  | .ownerCarries _ | .elementCount .. => decl.kind.isType = false
  | .parameters _ | .returns _ => decl.kind.isExecutable = true
  | .returnsOwner => decl.kind = .method
  | .holds _ | .instanceOf _ => decl.kind.isExecutable = false
  | .instanceType => decl.kind = .field ∧ cx.wears .modInstance d = true
  | .proxyClasses => decl.kind = .field ∧ cx.wears .sidedProxy d = true

/-- What a requirement demands of a declaration; its advice is demanded only where advice is
denied. -/
def Met (p : Program) (profile : Profile) (d : DeclId) (deny : Bool) : Requirement → Prop
  | .modifier m required =>
    modifierCode? m required ≠ none → (p.HasModifier d m ↔ required = true)
  | .staticIfNested => (∃ o, p.StandsIn d o) → p.HasModifier d .isStatic
  | .plainConstructor => p.HasPlainConstructor d
  | .ownerCarries tag => deny = true → p.OwnerCarries profile d tag
  | .parameters types => p.Takes d (types.map (Designated.typeName profile))
  | .returns type => p.Returns d (type.typeName profile)
  | .returnsOwner => p.ReturnsOwner d
  | .elementCount tag low high =>
    ∃ carrying, p.CarryBeside profile d tag carrying ∧ low ≤ carrying.length ∧
      carrying.length ≤ high
  | .holds type => ∃ source, p.typeId? (type.typeName profile) = some source ∧ p.CanHold d source
  | .instanceOf type => p.IsA d (type.typeName profile)
  | .instanceType =>
    p.NamesAnother profile d ∨ (p.CanHoldOwner d ∧ (deny = true → p.IsOwnerType d))
  | .proxyClasses => p.ProxiesFit profile d ∧ (deny = true → p.ProxiesKnown profile d)

end Requirement

namespace Context

variable {cx : Context} {d : DeclId} {decl : Declaration}

/-! ## Modifiers -/

theorem severity_of_modifierCode? {m : Modifier} {required : Bool} {code : Code}
    (h : modifierCode? m required = some code) : code.severity = .error := by
  revert h
  cases m <;> cases required <;> simp [modifierCode?] <;> rintro rfl <;> rfl

theorem clean_modifierReports_iff {deny : Bool} {m : Modifier} {required : Bool} :
    Clean deny (modifierReports d decl m required) ↔
      (modifierCode? m required ≠ none → decl.modifiers.has m = required) := by
  unfold modifierReports
  cases h : modifierCode? m required with
  | none => simp [clean_nil]
  | some code => simp [clean_error_iff (severity_of_modifierCode? h)]

theorem ensureModifier_settles (h : cx.program.declarations[d]? = some decl) (m : Modifier)
    (required : Bool) :
    (cx.ensureModifier d m required).Settles fun _ =>
      modifierCode? m required ≠ none → (cx.program.HasModifier d m ↔ required = true) := by
  refine ⟨_, ensureModifier_yields h m required, fun deny => ?_⟩
  rw [clean_modifierReports_iff, Program.hasModifier_iff h]
  refine imp_congr_right fun _ => ?_
  cases decl.modifiers.has m <;> cases required <;> simp

/-! ## Signatures -/

/-- A signature matches when there are as many parameters and each is a subtype. -/
theorem signatureMatches_iff {actual requested : List TypeId} :
    cx.signatureMatches actual requested = true ↔
      List.Forall₂ (fun t super => cx.program.isSubtype t super = true) actual requested := by
  unfold signatureMatches
  induction actual generalizing requested with
  | nil => cases requested <;> simp
  | cons t rest ih =>
      cases requested with
      | nil => simp
      | cons super others =>
          rw [List.forall₂_cons, ← ih]
          simp
          tauto

theorem exists_signatureText {types : List TypeId}
    (h : ∀ t ∈ types, ∃ name, cx.program.typeName t = .ok name) :
    ∃ text, cx.signatureText types = .ok text := by
  obtain ⟨names, hnames⟩ := exists_forall₂_iff.2 h
  exact ⟨_, by rw [signatureText, mapM_eq_ok_iff.2 hnames]; rfl⟩

section Asked

variable (hp : cx.program.WellFormed) (hcx : cx.Resolved)
  (h : cx.program.declarations[d]? = some decl)
include hp hcx h

theorem ensureParameters_settles (hkind : decl.kind.isExecutable = true)
    (types : List Designated) :
    (cx.ensureParameters d (types.map cx.framework.typeOf)).Settles fun _ =>
      cx.program.Takes d (types.map (Designated.typeName cx.framework.profile)) := by
  obtain ⟨text, htext⟩ : ∃ text, cx.signatureText (types.map cx.framework.typeOf) = .ok text := by
    refine exists_signatureText fun t ht => ?_
    obtain ⟨type, -, rfl⟩ := List.mem_map.1 ht
    exact ⟨_, hp.indexed.typeName_of_typeId? (hcx.designated type)⟩
  refine Check.settles_error rfl ?_ (ensureParameters_yields h hkind htext)
  rw [signatureMatches_iff, Program.Takes, Program.parametersOf_eq h hkind]
  simp [List.forall₂_map_right_iff, hcx.designated]

theorem ensureReturn_settles (hkind : decl.kind.isExecutable = true) (type : Designated) :
    (cx.ensureReturn d (cx.framework.typeOf type)).Settles fun _ =>
      cx.program.Returns d (type.typeName cx.framework.profile) := by
  have hid := hcx.designated type
  have hname := hp.indexed.typeName_of_typeId? hid
  refine Check.settles_error rfl ?_ (ensureReturn_yields h hkind hname)
  rw [Program.isSameType_iff hname, Program.returns_iff h hkind hid]

/-! ## Types -/

theorem ensureInstanceOf_settles (hkind : decl.kind.isExecutable = false) (type : Designated) :
    (cx.ensureInstanceOf d (cx.framework.typeOf type)).Settles fun _ =>
      cx.program.IsA d (type.typeName cx.framework.profile) := by
  obtain ⟨t, -, htype, -⟩ := hp.typed h hkind
  have hid := hcx.designated type
  have hname := hp.indexed.typeName_of_typeId? hid
  exact Check.settles_error rfl (Program.isA_iff h htype hid).symm
    (ensureInstanceOf_yields h htype hname)

theorem ensureAssignable_settles (hkind : decl.kind.isExecutable = false) (type : Designated) :
    (cx.ensureAssignable d (cx.framework.typeOf type)).Settles fun _ =>
      ∃ source, cx.program.typeId? (type.typeName cx.framework.profile) = some source ∧
        cx.program.CanHold d source := by
  obtain ⟨t, -, htype, -⟩ := hp.typed h hkind
  have hid := hcx.designated type
  have hname := hp.indexed.typeName_of_typeId? hid
  refine Check.settles_error rfl ?_ (ensureAssignable_yields h htype hname)
  simp [hid, Program.canHold_iff h htype]

/-! ## Owners -/

omit hp h in
/-- A declaration carries a tag when one of its attachments is of the tag's annotation type. -/
theorem wears_iff {tag : Tag} {e : DeclId} :
    cx.wears tag e = true ↔ cx.program.Carries cx.framework.profile e tag := by
  rw [wears, hcx.tagType, Program.carries_iff]

theorem ensureOwnerCarries_settles (hkind : decl.kind.isType = false) (tag : Tag) :
    (cx.ensureOwnerCarries d tag).Settles fun deny =>
      deny = true → cx.program.OwnerCarries cx.framework.profile d tag := by
  obtain ⟨owner, howner⟩ := hp.enclosed h hkind
  refine Check.settles_advice rfl ?_ (ensureOwnerCarries_yields hp h howner tag)
  rw [wears_iff hcx]
  simp [Program.OwnerCarries, Program.standsIn_iff h, howner]

omit hcx in
theorem returnsOwner_settles (hkind : decl.kind = .method) :
    (cx.checkRequirement d .returnsOwner).Settles fun _ => cx.program.ReturnsOwner d := by
  have hexecutable : decl.kind.isExecutable = true := by rw [hkind]; rfl
  obtain ⟨owner, around, t, name, howner, -, htype, hname⟩ :=
    hp.owner h (by rw [hkind]; rfl)
  unfold checkRequirement
  refine Check.Settles.ask_bind (Program.ownerOf_eq h howner) (Check.Settles.ask_bind htype ?_)
  refine Check.settles_error rfl ?_ (ensureReturn_yields h hexecutable hname)
  rw [Program.isSameType_iff hname, eq_comm]
  simp [Program.ReturnsOwner, Program.standsIn_iff h, howner, htype,
    Program.returnTypeOf_eq h hexecutable]

omit hp hcx h in
theorem clean_countReports_iff {deny : Bool} {tag : Tag} {count low high : Nat} :
    Clean deny (countReports cx d decl tag count low high) ↔ low ≤ count ∧ count ≤ high := by
  unfold countReports
  dsimp only
  split
  case isTrue hlow =>
      rw [clean_render_iff]
      simp [Code.severity]
      omega
  case isFalse hlow =>
      split
      case isTrue hhigh =>
          rw [clean_render_iff]
          simp [Code.severity]
          omega
      case isFalse hhigh => simp [clean_nil]; omega

theorem ensureElementCount_settles (hkind : decl.kind.isType = false) (tag : Tag)
    (low high : Nat) :
    (cx.ensureElementCount d tag low high).Settles fun _ =>
      ∃ carrying, cx.program.CarryBeside cx.framework.profile d tag carrying ∧
        low ≤ carrying.length ∧ carrying.length ≤ high := by
  obtain ⟨owner, howner⟩ := hp.enclosed h hkind
  obtain ⟨around, haround, -⟩ := hp.enclosing h howner
  refine ⟨_, ensureElementCount_yields hp h howner haround tag low high, fun deny => ?_⟩
  rw [clean_countReports_iff, List.countP_eq_length_filter]
  have hnodup : (around.members.filter (cx.wears tag)).Nodup :=
    ((hp.sorted haround).imp Nat.ne_of_lt).filter _
  have hmem (e : DeclId) : e ∈ around.members.filter (cx.wears tag) ↔
      e ∈ around.members ∧ cx.program.Carries cx.framework.profile e tag := by
    rw [List.mem_filter, wears_iff hcx]
  constructor
  · intro hbounds
    exact ⟨_, ⟨hnodup, owner, around.members, (Program.standsIn_iff h).2 howner,
      Program.membersOf_eq haround, hmem⟩, hbounds⟩
  · intro h'
    obtain ⟨carrying, ⟨hnodup', o, members, ho, hmembers, hcarrying⟩, hbounds⟩ := h'
    obtain rfl : owner = o := Option.some.inj (howner.symm.trans ((Program.standsIn_iff h).1 ho))
    obtain rfl : around.members = members :=
      Except.ok.inj ((Program.membersOf_eq haround).symm.trans hmembers)
    -- both lists hold the same members without repetition
    have hperm := (List.perm_ext_iff_of_nodup hnodup hnodup').2 fun e =>
      (hmem e).trans (hcarrying e).symm
    rwa [hperm.length_eq]

end Asked

/-! ## Constructors -/

section Constructors

/-- The test on each member tells the constructors for some types from all other members. -/
theorem isConstructorFor_iff {types : List TypeId} {e : DeclId} :
    cx.isConstructorFor types e = true ↔ cx.program.IsConstructorFor types e := by
  unfold isConstructorFor Program.IsConstructorFor
  cases hmember : cx.program.declarations[e]? with
  | none => simp [Program.kindOf, Program.declaration, hmember, Except.map]
  | some member =>
      rw [Program.kindOf_eq hmember, Except.ok.injEq, Option.any_some, Bool.and_eq_true,
        decide_eq_true_eq, signatureMatches_iff]
      refine and_congr_right fun hkind => ?_
      -- only what can be executed has parameters to ask for
      rw [Program.parametersOf_eq hmember (by rw [hkind]; rfl)]
      simp

/-- The member that is found is the first constructor, and none is found when there is none. -/
theorem firstConstructor_iff (h : cx.program.declarations[d]? = some decl) {types : List TypeId}
    {first? : Option DeclId} :
    cx.program.FirstConstructor d types first? ↔
      decl.members.find? (cx.isConstructorFor types) = first? := by
  cases first? with
  | none => simp [Program.FirstConstructor, Program.membersOf_eq h, isConstructorFor_iff]
  | some e =>
      rw [find?_eq_some_iff_first fun _ => isConstructorFor_iff]
      simp [Program.FirstConstructor, Program.membersOf_eq h]

theorem clean_constructorReports_iff (hp : cx.program.WellFormed)
    (h : cx.program.declarations[d]? = some decl) {deny : Bool} {anchor? : Option Anchor}
    {text : String} :
    Clean deny (constructorReports cx d decl [] text anchor?) ↔
      cx.program.HasPlainConstructor d := by
  rw [Program.hasPlainConstructor_iff]
  simp only [firstConstructor_iff h]
  unfold constructorReports
  cases hfind : decl.members.find? (cx.isConstructorFor []) with
  | none => simp [clean_render_iff, Code.severity]
  | some found =>
      obtain ⟨member, hmember, -⟩ := (hp.members h found).1 (List.mem_of_find?_eq_some hfind)
      simp [hmember, clean_modifierReports_iff, Program.hasModifier_iff hmember, modifierCode?]

end Constructors

/-! ## Instances -/

section Values

variable {a : AttachmentId} {attached : Attachment} {t : TypeId}

/-- What the first attachment under a tag is. -/
theorem firstAttachment_iff (hcx : cx.Resolved) (h : cx.program.declarations[d]? = some decl)
    {tag : Tag} (hfirst : cx.firstAttachment? tag decl = some a)
    (hattached : cx.program.attachments[a]? = some attached) {attached' : Attachment} :
    cx.program.FirstAttachment cx.framework.profile d tag attached' ↔ attached = attached' := by
  obtain ⟨type, htype, hfind⟩ := Option.bind_eq_some_iff.1 hfirst
  rw [hcx.tagType] at htype
  rw [Program.firstAttachment_iff h htype, hfind]
  simp [hattached]

variable (hp : cx.program.WellFormed) (hcx : cx.Resolved)
  (h : cx.program.declarations[d]? = some decl)
include hp hcx h

theorem ensureInstanceType_settles (hkind : decl.kind = .field)
    (hwears : cx.wears .modInstance d = true) :
    (cx.ensureInstanceType d).Settles fun deny =>
      cx.program.NamesAnother cx.framework.profile d ∨
        (cx.program.CanHoldOwner d ∧ (deny = true → cx.program.IsOwnerType d)) := by
  obtain ⟨a, attached, hfirst, hattached⟩ := exists_firstAttachment hp h hwears
  obtain ⟨t, -, htype, -⟩ := hp.typed h (by rw [hkind]; rfl)
  obtain ⟨owner, around, ownerType, name, howner, -, hownerType, hname⟩ :=
    hp.owner h (by rw [hkind]; rfl)
  refine ⟨_, ensureInstanceType_yields hp h htype hfirst hattached howner hownerType hname,
    fun deny => ?_⟩
  have hnames : cx.program.NamesAnother cx.framework.profile d ↔
      (attached.str? "value").getD "" ≠ "" := by
    simp [Program.NamesAnother, firstAttachment_iff hcx h hfirst hattached, Attachment.names_iff]
  have hhold : cx.program.CanHoldOwner d ↔ cx.program.isAssignable ownerType t = true := by
    simp [Program.CanHoldOwner, Program.standsIn_iff h, howner, hownerType,
      Program.canHold_iff h htype]
  have hsame : cx.program.IsOwnerType d ↔ t = ownerType := by
    simp [Program.IsOwnerType, Program.standsIn_iff h, howner, hownerType,
      Program.typeOf_eq h htype, eq_comm]
  rw [hnames, hhold, hsame, ← Program.isSameType_iff hname]
  unfold instanceReports
  -- a field that names another mod is not held against the type around it
  by_cases hvalue : (attached.str? "value").getD "" ≠ ""
  · simp [hvalue, clean_nil]
  · rw [if_neg hvalue, clean_append_iff, clean_error_iff rfl, clean_advice_iff rfl]
    simp [hvalue]

/-! ## Proxies -/

omit hp hcx h in
/-- The sides that are resolved are those whose class is named and known. -/
theorem mem_resolvedSides_iff {side : String} {type : TypeId} :
    (side, type) ∈ resolvedSides cx attached (namedSides attached) ↔
      side ∈ proxySides ∧ className attached side ≠ "" ∧
        cx.program.typeId? (className attached side) = some type := by
  unfold resolvedSides namedSides
  rw [List.mem_filterMap]
  simp only [List.mem_filter, decide_eq_true_eq, Option.map_eq_some_iff, Prod.mk.injEq]
  constructor
  · intro h'
    obtain ⟨side', ⟨hside, hname⟩, type', htype, rfl, rfl⟩ := h'
    exact ⟨hside, hname, htype⟩
  · intro h'
    obtain ⟨hside, hname, htype⟩ := h'
    exact ⟨side, ⟨hside, hname⟩, type, htype, rfl, rfl⟩

omit hcx h in
/-- The declaration that introduces a type is the one that declares it. -/
theorem declares_iff {e : DeclId} :
    cx.program.Declares e t ↔ cx.program.introducing? t = some e := by
  rw [hp.introducing]
  unfold Program.Declares
  cases he : cx.program.declarations[e]? with
  | none => simp [Program.kindOf, Program.declaration, he, Except.map]
  | some decl =>
      simp only [Program.kindOf_eq he, Except.ok.injEq, Option.some.injEq, exists_eq_left']
      unfold Declaration.introduced?
      cases hkind : decl.kind.isType with
      | false => simp
      | true =>
          obtain ⟨u, -, hu, -⟩ := hp.typed he (Kind.not_isExecutable_of_isType hkind)
          simp [Program.typeOf_eq he hu, hu]

omit hp hcx h in
theorem clean_unknownReports_iff {deny : Bool} {sides : List String} :
    Clean deny (unknownReports cx d a attached sides) ↔
      (deny = true → ∀ side ∈ sides, ∃ type,
        cx.program.typeId? (className attached side) = some type) := by
  unfold unknownReports
  rw [clean_flatMap_iff]
  refine ⟨fun hall hdeny side hside => ?_, fun hall side hside => ?_⟩
  · exact Option.isSome_iff_exists.1 ((clean_advice_iff rfl).1 (hall side hside) hdeny)
  · exact (clean_advice_iff rfl).2 fun hdeny =>
      Option.isSome_iff_exists.2 (hall hdeny side hside)

omit hcx in
theorem clean_fitReports_iff (htype : decl.type? = some t) {type : TypeId} {name : String}
    (hname : cx.program.typeId? name = some type) {deny : Bool} :
    Clean deny (fitReports cx d decl t type) ↔ cx.program.CanHold d type := by
  rw [Program.canHold_iff h htype]
  simp only [fitReports, hp.indexed.typeName_of_typeId? hname]
  exact clean_error_iff rfl

omit hcx h in
theorem clean_proxyConstructorReports_iff {side : String} {type : TypeId} {deny : Bool} :
    Clean deny (proxyConstructorReports cx d a side type) ↔
      ∀ e, cx.program.Declares e type → cx.program.HasPlainConstructor e := by
  simp only [declares_iff hp]
  unfold proxyConstructorReports
  cases hproxy : cx.program.introducing? type with
  | none => simp [clean_nil]
  | some proxy =>
      -- the only declaration of the type is the one the index holds
      obtain ⟨proxyDecl, hproxyDecl, -⟩ := (hp.introducing type proxy).1 hproxy
      simp [hproxyDecl, clean_constructorReports_iff hp hproxyDecl]

theorem ensureProxyClasses_settles (hkind : decl.kind = .field)
    (hwears : cx.wears .sidedProxy d = true) :
    (cx.ensureProxyClasses d).Settles fun deny =>
      cx.program.ProxiesFit cx.framework.profile d ∧
        (deny = true → cx.program.ProxiesKnown cx.framework.profile d) := by
  obtain ⟨a, attached, hfirst, hattached⟩ := exists_firstAttachment hp h hwears
  obtain ⟨t, -, htype, -⟩ := hp.typed h (by rw [hkind]; rfl)
  refine ⟨_, ensureProxyClasses_yields hp h htype hfirst hattached, fun deny => ?_⟩
  have hnames (side name : String) : cx.program.NamesProxy cx.framework.profile d side name ↔
      className attached side = name ∧ name ≠ "" := by
    simp [Program.NamesProxy, firstAttachment_iff hcx h hfirst hattached, Attachment.names_iff,
      className]
  unfold proxyReports
  simp only [clean_append_iff, clean_unknownReports_iff, clean_flatMap_iff,
    clean_proxyConstructorReports_iff hp, Prod.forall, mem_resolvedSides_iff, Program.ProxiesFit,
    Program.ProxiesKnown, hnames]
  constructor
  · intro h'
    obtain ⟨hknown, hfit, hconstructors⟩ := h'
    refine ⟨?_, ?_⟩
    · rintro side hside name ⟨rfl, hname⟩ type htypeId
      refine ⟨?_, hconstructors side type ⟨hside, hname, htypeId⟩⟩
      exact (clean_fitReports_iff hp h htype htypeId).1 (hfit side type ⟨hside, hname, htypeId⟩)
    · rintro hdeny side hside name ⟨rfl, hname⟩
      refine hknown hdeny side (List.mem_filter.2 ⟨hside, ?_⟩)
      exact decide_eq_true hname
  · intro h'
    obtain ⟨hfit, hknown⟩ := h'
    refine ⟨fun hdeny side hside => ?_, ?_, ?_⟩
    · obtain ⟨hside, hname⟩ := List.mem_filter.1 hside
      exact hknown hdeny side hside _ ⟨rfl, of_decide_eq_true hname⟩
    · rintro side type ⟨hside, hname, htypeId⟩
      exact (clean_fitReports_iff hp h htype htypeId).2
        (hfit side hside _ ⟨rfl, hname⟩ type htypeId).1
    · rintro side type ⟨hside, hname, htypeId⟩
      exact (hfit side hside _ ⟨rfl, hname⟩ type htypeId).2

end Values

/-! ## All requirements -/

/-- Checking a requirement settles whether a declaration that it applies to meets it. -/
theorem checkRequirement_settles (hp : cx.program.WellFormed) (hcx : cx.Resolved)
    (h : cx.program.declarations[d]? = some decl) {r : Requirement}
    (happlies : r.Applies cx d decl) :
    (cx.checkRequirement d r).Settles fun deny =>
      r.Met cx.program cx.framework.profile d deny := by
  cases r with
  | modifier m required => exact ensureModifier_settles h m required
  | staticIfNested =>
      refine Check.Settles.ask_bind (Program.enclosingOf_eq h) ?_
      simp only [Requirement.Met, Program.standsIn_iff h]
      cases decl.enclosing? with
      | none => exact Check.settles_pure (by simp)
      | some o =>
          refine (ensureModifier_settles h .isStatic true).congr fun deny => ?_
          simp [modifierCode?]
  | plainConstructor =>
      exact ⟨_, ensureConstructor_yields hp h (signatureText_nil cx),
        fun deny => clean_constructorReports_iff hp h⟩
  | ownerCarries tag => exact ensureOwnerCarries_settles hp hcx h happlies tag
  | parameters types => exact ensureParameters_settles hp hcx h happlies types
  | returns type => exact ensureReturn_settles hp hcx h happlies type
  | returnsOwner => exact returnsOwner_settles hp h happlies
  | elementCount tag low high => exact ensureElementCount_settles hp hcx h happlies tag low high
  | holds type => exact ensureAssignable_settles hp hcx h happlies type
  | instanceOf type => exact ensureInstanceOf_settles hp hcx h happlies type
  | instanceType => exact ensureInstanceType_settles hp hcx h happlies.1 happlies.2
  | proxyClasses => exact ensureProxyClasses_settles hp hcx h happlies.1 happlies.2

/-- Every requirement of a tag applies to what carries the tag and is of a kind the tag accepts. -/
theorem applies_of_accepts {tag : Tag} (hkind : tag.accepts decl.kind = true)
    (hwears : cx.wears tag d = true) : ∀ r ∈ tag.contract, r.Applies cx d decl := by
  cases tag <;> cases hk : decl.kind <;>
    simp_all [Tag.accepts, Tag.contract, Requirement.Applies, Kind.isType, Kind.isExecutable]

end Context

end ModContracts
