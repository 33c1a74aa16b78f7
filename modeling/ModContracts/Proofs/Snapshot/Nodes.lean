import ModContracts.Proofs.Program.Growth
import ModContracts.Proofs.Program.Naming
import ModContracts.Proofs.Snapshot.Preorder
import ModContracts.Proofs.Snapshot.Values

/-!
# Loading node by node

Loading descends into the members of every declaration. Since a member comes after the declaration
around it, the same program results when the nodes of the forest are loaded one after another in
preorder, so what loading does to a forest is what it does to one node.

* `DeclSpec.WellShaped` — a declaration writes only the parts its kind has;
* `Snapshot.Node.Head` — the bare declaration a node becomes;
* `Snapshot.Node.load` — the declaration of one node with everything on it;
* `DeclSpec.loadAll_eq_loadNodes` — loading a forest is loading its nodes in preorder;
* `Snapshot.Node.load_eq_ok_iff` — what loading one node makes of a program;
* `Snapshot.Node.exists_load_iff` — when one node can be loaded.
-/

namespace ModContracts

/-! ## Shapes -/

namespace DeclSpec

variable {spec : DeclSpec}

/-- A declaration writes only the parts its kind has, and a field writes its type. -/
def WellShaped (spec : DeclSpec) : Prop :=
  match spec.kind with
  | .method => spec.supertypes = [] ∧ spec.members = [] ∧ spec.type? = none
  | .constructor =>
    spec.supertypes = [] ∧ spec.members = [] ∧ spec.returns? = none ∧ spec.type? = none
  | .field =>
    spec.supertypes = [] ∧ spec.members = [] ∧ spec.parameters = [] ∧ spec.returns? = none ∧
      spec.type? ≠ none
  | _ => spec.type? = none ∧ spec.parameters = [] ∧ spec.returns? = none

theorem firstMisplaced?_eq_none_iff {parts : List (Part × Bool)} :
    spec.firstMisplaced? parts = none ↔ ∀ part ∈ parts, part.2 = false := by
  simp [firstMisplaced?]

/-- Nothing is wrong with a declaration that writes its own parts and, unless it is a type, stands
inside another declaration. -/
theorem shapeError?_eq_none_iff {nested : Bool} :
    spec.shapeError? nested = none ↔
      spec.WellShaped ∧ (spec.kind.isType = true ∨ nested = true) := by
  obtain ⟨kind, name, modifiers, supertypes, type?, parameters, returns?, attachments, members,
    location?⟩ := spec
  cases kind <;> cases nested <;>
    simp [shapeError?, WellShaped, Kind.isType, firstMisplaced?_eq_none_iff, Option.or_eq_none_iff,
      and_assoc]

/-- A declaration that is no type has nothing inside it. -/
theorem WellShaped.isType_of_members (h : spec.WellShaped) (hmembers : spec.members ≠ []) :
    spec.kind.isType = true := by
  unfold WellShaped at h
  cases hkind : spec.kind <;> simp_all [Kind.isType]

/-- A declaration that is no type writes no supertypes. -/
theorem WellShaped.isType_of_supertypes (h : spec.WellShaped) (hsupers : spec.supertypes ≠ []) :
    spec.kind.isType = true := by
  unfold WellShaped at h
  cases hkind : spec.kind <;> simp_all [Kind.isType]

/-- The type names a declaration and the annotations on it refer to, supertypes apart. -/
def typeNames (spec : DeclSpec) : List String :=
  spec.type?.toList ++ spec.parameters ++ spec.returns?.toList ++
    spec.attachments.flatMap AttachmentSpec.typeNames

end DeclSpec

/-! ## Heads -/

namespace Snapshot.Node

/-- The name, the types and the parameters of the declaration a node becomes. What the kind of a
declaration has not stays empty. -/
def Signature (ids : TypeIds) (spec : DeclSpec) (decl : Declaration) : Prop :=
  match spec.kind with
  | .method =>
    decl.name = spec.name ∧ decl.type? = none ∧ StandFor ids spec.parameters decl.parameters ∧
      ∃ t, ids (spec.returns?.getD "void") = some t ∧ decl.returns? = some t
  | .constructor =>
    decl.name = Program.constructorName ∧ decl.type? = none ∧
      StandFor ids spec.parameters decl.parameters ∧ decl.returns? = none
  | .field =>
    decl.name = spec.name ∧ (∃ t, ids (spec.type?.getD "") = some t ∧ decl.type? = some t) ∧
      decl.parameters = [] ∧ decl.returns? = none
  | _ =>
    decl.name = lastSegment spec.name ∧ (∃ t, ids spec.name = some t ∧ decl.type? = some t) ∧
      decl.parameters = [] ∧ decl.returns? = none

/-- What a declaration takes from a node, whatever is on it and inside it. -/
structure Describes (ids : TypeIds) (n : Node) (decl : Declaration) : Prop where
  kind : decl.kind = n.spec.kind
  modifiers : decl.modifiers = ModifierSet.ofList n.spec.modifiers
  enclosing : decl.enclosing? = n.parent?
  signature : Signature ids n.spec decl

/-- The declaration of a node before anything is put on it or inside it. -/
structure Head (ids : TypeIds) (n : Node) (decl : Declaration) : Prop
    extends n.Describes ids decl where
  members : decl.members = []
  attachments : decl.attachments = []
  location : decl.location? = none

/-! ### What each kind writes -/

section Kinds

variable {ids : TypeIds} {n : Node} {decl : Declaration} (h : n.Describes ids decl)
include h

theorem Describes.of_isType (hkind : n.spec.kind.isType = true) :
    decl.name = lastSegment n.spec.name ∧ ∃ t, ids n.spec.name = some t ∧ decl.type? = some t := by
  have hsignature := h.signature
  unfold Signature at hsignature
  cases hk : n.spec.kind with
  | method => simp [hk, Kind.isType] at hkind
  | constructor => simp [hk, Kind.isType] at hkind
  | field => simp [hk, Kind.isType] at hkind
  | _ =>
      simp only [hk] at hsignature
      exact ⟨hsignature.1, hsignature.2.1⟩

theorem Describes.of_method (hkind : n.spec.kind = .method) :
    decl.name = n.spec.name ∧ StandFor ids n.spec.parameters decl.parameters ∧
      ∃ t, ids (n.spec.returns?.getD "void") = some t ∧ decl.returns? = some t := by
  have hsignature := h.signature
  simp only [Signature, hkind] at hsignature
  exact ⟨hsignature.1, hsignature.2.2⟩

theorem Describes.of_constructor (hkind : n.spec.kind = .constructor) :
    decl.name = Program.constructorName ∧ StandFor ids n.spec.parameters decl.parameters ∧
      decl.returns? = none := by
  have hsignature := h.signature
  simp only [Signature, hkind] at hsignature
  exact ⟨hsignature.1, hsignature.2.2⟩

theorem Describes.of_field (hkind : n.spec.kind = .field) :
    decl.name = n.spec.name ∧
      ∃ t, ids (n.spec.type?.getD "") = some t ∧ decl.type? = some t := by
  have hsignature := h.signature
  simp only [Signature, hkind] at hsignature
  exact ⟨hsignature.1, hsignature.2.1⟩

theorem Describes.of_isExecutable (hkind : n.spec.kind.isExecutable = true) :
    StandFor ids n.spec.parameters decl.parameters := by
  cases hk : n.spec.kind with
  | method => exact (h.of_method hk).2.1
  | constructor => exact (h.of_constructor hk).2.1
  | _ => simp [hk, Kind.isExecutable] at hkind

end Kinds

/-- Adds the declaration of a node with everything on it. -/
def load (p : Program) (n : Node) : Loaded Program := do
  let (added, d) ← n.spec.loadHead p n.parent?
  (added.place d n.spec.location?).loadAttachments d n.spec.attachments

end Snapshot.Node

namespace DeclSpec

variable {spec : DeclSpec} {p q : Program} {enclosing? : Option DeclId} {d : DeclId}

theorem loadHead_of_isType (hkind : spec.kind.isType = true)
    (hshape : spec.shapeError? enclosing?.isSome = none) :
    spec.loadHead p enclosing? = (do
      let type ← p.resolve spec.name
      return p.declareTypeOf spec.kind type (ModifierSet.ofList spec.modifiers) enclosing?) := by
  unfold loadHead
  rw [hshape]
  cases h : spec.kind <;> simp_all [Kind.isType]

theorem loadHead_method {owner : DeclId} (hkind : spec.kind = .method)
    (hshape : spec.shapeError? true = none) :
    spec.loadHead p (some owner) = (do
      let parameters ← spec.parameters.mapM p.resolve
      let returns ← p.resolve (spec.returns?.getD "void")
      return p.declareMethod owner spec.name (ModifierSet.ofList spec.modifiers) parameters
        returns) := by
  simp [loadHead, hkind, hshape]

theorem loadHead_constructor {owner : DeclId} (hkind : spec.kind = .constructor)
    (hshape : spec.shapeError? true = none) :
    spec.loadHead p (some owner) = (do
      let parameters ← spec.parameters.mapM p.resolve
      return p.declareConstructor owner (ModifierSet.ofList spec.modifiers) parameters) := by
  simp [loadHead, hkind, hshape]

theorem loadHead_field {owner : DeclId} (hkind : spec.kind = .field)
    (hshape : spec.shapeError? true = none) :
    spec.loadHead p (some owner) = (do
      let type ← p.resolve (spec.type?.getD "")
      return p.declareField owner spec.name (ModifierSet.ofList spec.modifiers) type) := by
  simp [loadHead, hkind, hshape]

end DeclSpec

namespace Snapshot.Node

variable {ids : TypeIds} {spec : DeclSpec} {enclosing? : Option DeclId} {decl : Declaration}

theorem head_iff_of_isType (hkind : spec.kind.isType = true) :
    Head ids ⟨spec, enclosing?⟩ decl ↔ ∃ t, ids spec.name = some t ∧
      decl = { kind := spec.kind, name := lastSegment spec.name, type? := some t,
               modifiers := ModifierSet.ofList spec.modifiers, enclosing? } := by
  constructor
  · intro h'
    obtain ⟨⟨hk, hm, he, hs⟩, hmembers, hattachments, hlocation⟩ := h'
    have hs' : decl.name = lastSegment spec.name ∧
        (∃ t, ids spec.name = some t ∧ decl.type? = some t) ∧
        decl.parameters = [] ∧ decl.returns? = none := by
      unfold Signature at hs
      revert hkind hs
      cases spec.kind <;> simp [Kind.isType]
    obtain ⟨hname, ⟨t, ht, htype⟩, hparameters, hreturns⟩ := hs'
    refine ⟨t, ht, ?_⟩
    cases decl
    simp_all
  · intro h'
    obtain ⟨t, ht, rfl⟩ := h'
    refine ⟨⟨rfl, rfl, rfl, ?_⟩, rfl, rfl, rfl⟩
    unfold Signature
    revert hkind
    cases spec.kind <;> simp [Kind.isType, ht]

theorem head_iff_method (hkind : spec.kind = .method) :
    Head ids ⟨spec, enclosing?⟩ decl ↔ ∃ parameters returns,
      StandFor ids spec.parameters parameters ∧ ids (spec.returns?.getD "void") = some returns ∧
      decl = { kind := .method, name := spec.name, parameters, returns? := some returns,
               modifiers := ModifierSet.ofList spec.modifiers, enclosing? } := by
  constructor
  · intro h'
    obtain ⟨⟨hk, hm, he, hs⟩, hmembers, hattachments, hlocation⟩ := h'
    simp only [Signature, hkind] at hs
    obtain ⟨hname, htype, hparameters, returns, hids, hreturns⟩ := hs
    refine ⟨decl.parameters, returns, hparameters, hids, ?_⟩
    cases decl
    simp_all
  · intro h'
    obtain ⟨parameters, returns, hparameters, hids, rfl⟩ := h'
    exact ⟨⟨hkind.symm, rfl, rfl, by simp [Signature, hkind, hparameters, hids]⟩, rfl, rfl, rfl⟩

theorem head_iff_constructor (hkind : spec.kind = .constructor) :
    Head ids ⟨spec, enclosing?⟩ decl ↔ ∃ parameters, StandFor ids spec.parameters parameters ∧
      decl = { kind := .constructor, name := Program.constructorName, parameters,
               modifiers := ModifierSet.ofList spec.modifiers, enclosing? } := by
  constructor
  · intro h'
    obtain ⟨⟨hk, hm, he, hs⟩, hmembers, hattachments, hlocation⟩ := h'
    simp only [Signature, hkind] at hs
    obtain ⟨hname, htype, hparameters, hreturns⟩ := hs
    refine ⟨decl.parameters, hparameters, ?_⟩
    cases decl
    simp_all
  · intro h'
    obtain ⟨parameters, hparameters, rfl⟩ := h'
    exact ⟨⟨hkind.symm, rfl, rfl, by simp [Signature, hkind, hparameters]⟩, rfl, rfl, rfl⟩

theorem head_iff_field (hkind : spec.kind = .field) :
    Head ids ⟨spec, enclosing?⟩ decl ↔ ∃ t, ids (spec.type?.getD "") = some t ∧
      decl = { kind := .field, name := spec.name, type? := some t,
               modifiers := ModifierSet.ofList spec.modifiers, enclosing? } := by
  constructor
  · intro h'
    obtain ⟨⟨hk, hm, he, hs⟩, hmembers, hattachments, hlocation⟩ := h'
    simp only [Signature, hkind] at hs
    obtain ⟨hname, ⟨t, ht, htype⟩, hparameters, hreturns⟩ := hs
    refine ⟨t, ht, ?_⟩
    cases decl
    simp_all
  · intro h'
    obtain ⟨t, ht, rfl⟩ := h'
    exact ⟨⟨hkind.symm, rfl, rfl, by simp [Signature, hkind, ht]⟩, rfl, rfl, rfl⟩

end Snapshot.Node

namespace DeclSpec

open Snapshot.Node

variable {spec : DeclSpec} {p q : Program} {enclosing? : Option DeclId} {d : DeclId}

theorem loadHead_eq_ok_iff_of_isType (hp : p.Indexed) (hkind : spec.kind.isType = true)
    (hshape : spec.shapeError? enclosing?.isSome = none) :
    spec.loadHead p enclosing? = .ok (q, d) ↔ ∃ decl, Head p.typeId? ⟨spec, enclosing?⟩ decl ∧
      (p.enter decl, p.declarations.length) = (q, d) := by
  rw [loadHead_of_isType hkind hshape, bind_eq_ok_iff]
  constructor
  · intro h'
    obtain ⟨t, ht, h⟩ := h'
    rw [Program.resolve_eq_ok_iff] at ht
    refine ⟨_, (head_iff_of_isType hkind).2 ⟨t, ht, rfl⟩, ?_⟩
    rwa [pure_eq_ok_iff, Program.declareTypeOf_eq_enter hkind (hp.typeName_of_typeId? ht)] at h
  · intro h'
    obtain ⟨decl, hhead, h⟩ := h'
    obtain ⟨t, ht, rfl⟩ := (head_iff_of_isType hkind).1 hhead
    refine ⟨t, Program.resolve_eq_ok_iff.2 ht, ?_⟩
    rwa [pure_eq_ok_iff, Program.declareTypeOf_eq_enter hkind (hp.typeName_of_typeId? ht)]

/-- What is no type stands in another declaration, and each part it names has to be known. -/
theorem loadHead_eq_ok_iff_of_member {owner : DeclId} (hkind : spec.kind.isType = false)
    (hshape : spec.shapeError? true = none) :
    spec.loadHead p (some owner) = .ok (q, d) ↔ ∃ decl, Head p.typeId? ⟨spec, some owner⟩ decl ∧
      (p.enter decl, p.declarations.length) = (q, d) := by
  cases hk : spec.kind with
  | method =>
      simp only [loadHead_method hk hshape, head_iff_method hk, bind_eq_ok_iff, pure_eq_ok_iff,
        Program.mapM_resolve_eq_ok_iff, Program.resolve_eq_ok_iff]
      constructor
      · intro h'
        obtain ⟨parameters, hparameters, returns, hreturns, h⟩ := h'
        exact ⟨_, ⟨parameters, returns, hparameters, hreturns, rfl⟩, h⟩
      · intro h'
        obtain ⟨_, ⟨parameters, returns, hparameters, hreturns, rfl⟩, h⟩ := h'
        exact ⟨parameters, hparameters, returns, hreturns, h⟩
  | constructor =>
      simp only [loadHead_constructor hk hshape, head_iff_constructor hk, bind_eq_ok_iff,
        pure_eq_ok_iff, Program.mapM_resolve_eq_ok_iff]
      constructor
      · intro h'
        obtain ⟨parameters, hparameters, h⟩ := h'
        exact ⟨_, ⟨parameters, hparameters, rfl⟩, h⟩
      · intro h'
        obtain ⟨_, ⟨parameters, hparameters, rfl⟩, h⟩ := h'
        exact ⟨parameters, hparameters, h⟩
  | field =>
      simp only [loadHead_field hk hshape, head_iff_field hk, bind_eq_ok_iff, pure_eq_ok_iff,
        Program.resolve_eq_ok_iff]
      constructor
      · intro h'
        obtain ⟨t, ht, h⟩ := h'
        exact ⟨_, ⟨t, ht, rfl⟩, h⟩
      · intro h'
        obtain ⟨_, ⟨t, ht, rfl⟩, h⟩ := h'
        exact ⟨t, ht, h⟩
  | _ => simp [hk, Kind.isType] at hkind

/-- Loading the head of a declaration enters it into the program as its last declaration. -/
theorem loadHead_eq_ok_iff (hp : p.Indexed) :
    spec.loadHead p enclosing? = .ok (q, d) ↔
      (spec.WellShaped ∧ (spec.kind.isType = true ∨ enclosing?.isSome = true)) ∧
        ∃ decl, Head p.typeId? ⟨spec, enclosing?⟩ decl ∧ (p.enter decl, p.declarations.length) =
          (q, d) := by
  rw [← shapeError?_eq_none_iff]
  cases hshape : spec.shapeError? enclosing?.isSome with
  | some error =>
      have hload : spec.loadHead p enclosing? = .error error := by
        simp only [loadHead, hshape]
        rfl
      simp [hload]
  | none =>
      simp only [true_and]
      by_cases hkind : spec.kind.isType = true
      · exact loadHead_eq_ok_iff_of_isType hp hkind hshape
      · obtain ⟨owner, rfl⟩ : ∃ owner, enclosing? = some owner := by
          rcases (shapeError?_eq_none_iff.1 hshape).2 with h | h
          · exact absurd h hkind
          · exact Option.isSome_iff_exists.1 h
        exact loadHead_eq_ok_iff_of_member (Bool.eq_false_iff.2 hkind) hshape

end DeclSpec

/-! ## Annotations -/

/-- What is written on a declaration belongs to it. -/
theorem AttachmentSpec.owner_of_means {ids : TypeIds} {d : DeclId} {specs : List AttachmentSpec}
    {attached : List Attachment} (h : List.Forall₂ (Means ids d) specs attached) :
    ∀ a ∈ attached, a.owner = d := by
  induction h with
  | nil => simp
  | cons hfirst _ ih => exact List.forall_mem_cons.2 ⟨hfirst.owner, ih⟩

/-- Loading annotations affixes what they mean. -/
theorem Program.loadAttachments_eq_ok_iff {specs : List AttachmentSpec} {d : DeclId}
    {p q : Program} :
    p.loadAttachments d specs = .ok q ↔ ∃ attached,
      List.Forall₂ (AttachmentSpec.Means p.typeId? d) specs attached ∧ p.affixAll attached = q := by
  induction specs generalizing p with
  | nil => simp [loadAttachments, affixAll]
  | cons spec rest ih =>
      simp only [loadAttachments, bind_eq_ok_iff, resolve_eq_ok_iff,
        ValueSpec.loadEntries_eq_ok_iff, setAttachmentLocation_attach, ih,
        (sameNames_affix p _).typeId?_eq]
      constructor
      · intro h'
        obtain ⟨type, htype, values, hvalues, attached, hrest, h⟩ := h'
        exact ⟨_, .cons ⟨rfl, htype, hvalues, rfl, rfl⟩ hrest, h⟩
      · intro h'
        obtain ⟨_, _ | ⟨hfirst, hrest⟩, h⟩ := h'
        obtain ⟨hd, htype, hvalues, hlocation, hlocations⟩ := hfirst
        refine ⟨_, htype, _, hvalues, _, hrest, ?_⟩
        rw [← h, ← hlocation, ← hlocations, ← hd]
        rfl

theorem AttachmentSpec.exists_forall₂_means_iff {ids : TypeIds} {d : DeclId}
    {specs : List AttachmentSpec} :
    (∃ attached, List.Forall₂ (Means ids d) specs attached) ↔
      Resolve ids (specs.flatMap typeNames) := by
  rw [exists_forall₂_iff]
  simp only [exists_means_iff, Resolve, List.mem_flatMap]
  constructor
  · rintro hall name ⟨spec, hspec, hname⟩
    exact hall spec hspec name hname
  · exact fun hall spec hspec name hname => hall name ⟨spec, hspec, hname⟩

/-! ## One node -/

namespace Snapshot.Node

variable {p q : Program} {n : Node}

/-- Loading a node enters its declaration, places it and affixes what is written on it. -/
theorem load_eq_ok_iff (hp : p.Indexed) :
    n.load p = .ok q ↔
      (n.spec.WellShaped ∧ (n.spec.kind.isType = true ∨ n.parent?.isSome = true)) ∧
        ∃ decl attached, n.Head p.typeId? decl ∧
          List.Forall₂ (AttachmentSpec.Means p.typeId? p.declarations.length) n.spec.attachments
            attached ∧
          ((p.enter decl).place p.declarations.length n.spec.location?).affixAll attached = q := by
  -- annotations are read after the declaration is entered, which changes no name
  have hids (decl : Declaration) :
      ((p.enter decl).place p.declarations.length n.spec.location?).typeId? = p.typeId? :=
    (Program.SameNames.of_types_eq (by simp) (by simp)).typeId?_eq
  unfold load
  simp only [bind_eq_ok_iff, Prod.exists, DeclSpec.loadHead_eq_ok_iff hp, Prod.mk.injEq,
    Program.loadAttachments_eq_ok_iff]
  constructor
  · intro h'
    obtain ⟨_, _, ⟨hshape, decl, hhead, rfl, rfl⟩, attached, hattached, h⟩ := h'
    exact ⟨hshape, decl, attached, hhead, hids decl ▸ hattached, h⟩
  · intro h'
    obtain ⟨hshape, decl, attached, hhead, hattached, h⟩ := h'
    exact ⟨_, _, ⟨hshape, decl, hhead, rfl, rfl⟩, attached, (hids decl).symm ▸ hattached, h⟩

/-- Loading a node adds one declaration and leaves the types alone. -/
theorem load_frame (hp : p.Indexed) (h : n.load p = .ok q) :
    p.SameNames q ∧ q.declarations.length = p.declarations.length + 1 := by
  obtain ⟨-, decl, attached, -, hattached, rfl⟩ := (load_eq_ok_iff hp).1 h
  refine ⟨.of_types_eq (by simp) (by simp), ?_⟩
  rw [Program.declarations_affixAll (AttachmentSpec.owner_of_means hattached)]
  simp

/-- The annotations on a node and the types it names decide whether its head can be loaded. -/
theorem exists_head_iff {ids : TypeIds} (hvoid : ∃ t, ids "void" = some t)
    (hshape : n.spec.WellShaped) :
    (∃ decl, n.Head ids decl) ↔
      (n.spec.kind.isType = true → ∃ t, ids n.spec.name = some t) ∧
        Resolve ids (n.spec.type?.toList ++ n.spec.parameters ++ n.spec.returns?.toList) := by
  obtain ⟨spec, parent?⟩ := n
  by_cases hkind : spec.kind.isType = true
  · have hnothing : spec.type? = none ∧ spec.parameters = [] ∧ spec.returns? = none := by
      unfold DeclSpec.WellShaped at hshape
      revert hkind hshape
      cases spec.kind <;> simp [Kind.isType]
    simp only [head_iff_of_isType hkind, hnothing, hkind]
    simp
  · cases hk : spec.kind with
    | method =>
        simp only [DeclSpec.WellShaped, hk] at hshape
        have hreturns : (∃ t, ids (spec.returns?.getD "void") = some t) ↔
            Resolve ids spec.returns?.toList := by
          cases spec.returns? <;> simp [hvoid]
        rw [hshape.2.2, Option.toList_none, List.nil_append, resolve_append, ← hreturns,
          ← exists_standFor_iff]
        simp [head_iff_method hk, Kind.isType]
    | constructor =>
        simp only [DeclSpec.WellShaped, hk] at hshape
        rw [hshape.2.2.1, hshape.2.2.2, Option.toList_none, List.nil_append, List.append_nil,
          ← exists_standFor_iff]
        simp [head_iff_constructor hk, Kind.isType]
    | field =>
        simp only [DeclSpec.WellShaped, hk] at hshape
        obtain ⟨type, htype⟩ := Option.ne_none_iff_exists'.1 hshape.2.2.2.2
        simp [head_iff_field hk, hshape, htype, Kind.isType]
    | _ => exact absurd (by rw [hk]; rfl) hkind

/-- A node can be loaded if it writes the parts of its kind, stands where it may, and names types
that are known. -/
theorem exists_load_iff (hp : p.Indexed) (hvoid : ∃ t, p.typeId? "void" = some t) :
    (∃ q, n.load p = .ok q) ↔
      (n.spec.WellShaped ∧ (n.spec.kind.isType = true ∨ n.parent?.isSome = true)) ∧
        (n.spec.kind.isType = true → ∃ t, p.typeId? n.spec.name = some t) ∧
        Resolve p.typeId? n.spec.typeNames := by
  simp only [load_eq_ok_iff hp]
  constructor
  · intro h'
    obtain ⟨_, hshape, decl, attached, hhead, hattached, -⟩ := h'
    obtain ⟨hname, hnames⟩ := (exists_head_iff hvoid hshape.1).1 ⟨decl, hhead⟩
    exact ⟨hshape, hname, resolve_append.2
      ⟨hnames, AttachmentSpec.exists_forall₂_means_iff.1 ⟨attached, hattached⟩⟩⟩
  · intro h'
    obtain ⟨hshape, hname, hnames⟩ := h'
    obtain ⟨hhead, hattached⟩ := resolve_append.1 hnames
    obtain ⟨decl, hdecl⟩ := (exists_head_iff hvoid hshape.1).2 ⟨hname, hhead⟩
    obtain ⟨attached, hattached⟩ := AttachmentSpec.exists_forall₂_means_iff.2 hattached
    exact ⟨_, hshape, decl, attached, hdecl, hattached, rfl⟩

end Snapshot.Node

/-! ## All nodes -/

namespace Snapshot

variable {p q : Program}

/-- Adds the declarations of nodes, in order. -/
def loadNodes (p : Program) (ns : List Node) : Loaded Program :=
  ns.foldlM Node.load p

@[simp] theorem loadNodes_nil (p : Program) : loadNodes p [] = .ok p := rfl

theorem loadNodes_cons (p : Program) (n : Node) (ns : List Node) :
    loadNodes p (n :: ns) = n.load p >>= fun q => loadNodes q ns :=
  List.foldlM_cons

theorem loadNodes_append (p : Program) (ns ms : List Node) :
    loadNodes p (ns ++ ms) = loadNodes p ns >>= fun q => loadNodes q ms :=
  List.foldlM_append

/-- Loading nodes adds one declaration for each and leaves the types alone. -/
theorem loadNodes_frame {ns : List Node} (hp : p.Indexed) (h : loadNodes p ns = .ok q) :
    p.SameNames q ∧ q.declarations.length = p.declarations.length + ns.length := by
  induction ns generalizing p with
  | nil =>
      obtain rfl : p = q := by simpa using h
      exact ⟨.refl p, rfl⟩
  | cons n rest ih =>
      rw [loadNodes_cons] at h
      obtain ⟨r, hr, h⟩ := bind_eq_ok_iff.1 h
      obtain ⟨hnames, hlength⟩ := Node.load_frame hp hr
      obtain ⟨hnames', hlength'⟩ := ih (hnames.indexed hp) h
      refine ⟨hnames.trans hnames', ?_⟩
      rw [hlength', hlength, List.length_cons]
      omega

/-- Nodes can be loaded one after another exactly when each of them can be loaded first. -/
theorem exists_loadNodes_iff {ns : List Node} (hp : p.Indexed)
    (hvoid : ∃ t, p.typeId? "void" = some t) :
    (∃ q, loadNodes p ns = .ok q) ↔ ∀ n ∈ ns, ∃ q, n.load p = .ok q := by
  induction ns generalizing p with
  | nil => simp
  | cons n rest ih =>
      simp only [loadNodes_cons, bind_eq_ok_iff, List.forall_mem_cons]
      -- the first node leaves the names alone, so it decides nothing about the others
      have hnext {r : Program} (hr : n.load p = .ok r) :
          (∃ q, loadNodes r rest = .ok q) ↔ ∀ m ∈ rest, ∃ q, m.load p = .ok q := by
        obtain ⟨hnames, -⟩ := Node.load_frame hp hr
        have hr' := hnames.indexed hp
        have hvoid' : ∃ t, r.typeId? "void" = some t := by rwa [hnames.typeId?_eq]
        rw [ih hr' hvoid']
        simp only [Node.exists_load_iff hr' hvoid', Node.exists_load_iff hp hvoid,
          hnames.typeId?_eq]
      constructor
      · intro h'
        obtain ⟨q, r, hr, hq⟩ := h'
        exact ⟨⟨r, hr⟩, (hnext hr).1 ⟨q, hq⟩⟩
      · intro h'
        obtain ⟨⟨r, hr⟩, hrest⟩ := h'
        obtain ⟨q, hq⟩ := (hnext hr).2 hrest
        exact ⟨q, r, hr, hq⟩

end Snapshot

namespace DeclSpec

variable {p : Program}

/-- A declaration is loaded before the declarations inside it. -/
theorem load_eq_bind (hp : p.Indexed) (enclosing? : Option DeclId) (spec : DeclSpec) :
    load p enclosing? spec =
      Snapshot.Node.load p ⟨spec, enclosing?⟩ >>= fun q =>
        loadAll q (some p.declarations.length) spec.members := by
  -- the head is entered last, so its number is the one its members are loaded into
  have hhead (added : Program) (d : DeclId) (h : spec.loadHead p enclosing? = .ok (added, d)) :
      d = p.declarations.length := by
    obtain ⟨-, decl, -, heq⟩ := (loadHead_eq_ok_iff hp).1 h
    exact (Prod.mk.inj heq).2.symm
  obtain ⟨kind, name, modifiers, supertypes, type?, parameters, returns?, attachments, members,
    location?⟩ := spec
  unfold load Snapshot.Node.load
  dsimp only
  cases hload : loadHead _ p enclosing? with
  | error error => rfl
  | ok head =>
      obtain ⟨added, d⟩ := head
      obtain rfl := hhead added d hload
      cases location? <;> rfl

/-- Loading a forest is loading its nodes one after another in preorder. -/
theorem loadAll_eq_loadNodes (hp : p.Indexed) (enclosing? : Option DeclId) (specs : List DeclSpec) :
    loadAll p enclosing? specs =
      Snapshot.loadNodes p (nodesOfAll p.declarations.length enclosing? specs) := by
  induction specs using forest_induction generalizing p enclosing? with
  | nil => rfl
  | cons spec rest ihMembers ihRest =>
      rw [loadAll, load_eq_bind hp, nodesOfAll_cons, Snapshot.loadNodes_cons]
      cases hn : Snapshot.Node.load p ⟨spec, enclosing?⟩ with
      | error error => rfl
      | ok q =>
          obtain ⟨hnames, hlength⟩ := Snapshot.Node.load_frame hp hn
          have hq := hnames.indexed hp
          change (loadAll q _ _ >>= fun r => loadAll r enclosing? rest) = _
          rw [ihMembers hq, hlength]
          change _ = Snapshot.loadNodes q _
          rw [Snapshot.loadNodes_append]
          cases hm : Snapshot.loadNodes q
              (nodesOfAll (p.declarations.length + 1) (some p.declarations.length) spec.members) with
          | error error => rfl
          | ok r =>
              obtain ⟨hnames', hlength'⟩ := Snapshot.loadNodes_frame hq hm
              have hr := hnames'.indexed hq
              -- everything inside the first tree is entered before the next tree is
              have hplace : r.declarations.length = p.declarations.length + spec.size := by
                rw [hlength', hlength, length_nodesOfAll, size_eq]
                omega
              change loadAll r enclosing? rest = Snapshot.loadNodes r _
              rw [ihRest hr, hplace]

end DeclSpec

end ModContracts
