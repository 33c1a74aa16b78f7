import ModContracts.Proofs.Program.Renamed
import ModContracts.Proofs.Snapshot.TypeTable

/-!
# Snapshots that differ in the names of types

Two snapshots can describe the same declarations under other names of types, and list library types and
supertypes in another order. They name the same things up to the renaming, so one of them can be loaded
exactly when the other one can.

* `DeclSpec.Aligned` — forests of the same shape, declaration by declaration;
* `TypeSpec.Renamed`, `AttachmentSpec.Renamed`, `DeclSpec.Renamed`, `Snapshot.Renamed` — what one snapshot
  writes where the other one writes something else;
* `Snapshot.Renamed.declaredNames_perm` and others — the names in both; `Snapshot.TypesRenamed` — what
  they say about the types alone;
* `Snapshot.Renamed.acceptable_iff` — both can be loaded, or neither.
-/

namespace ModContracts

/-! ## Related lists -/

section Related

variable {α β γ δ : Type} {R : α → β → Prop} {xs : List α} {ys : List β}

/-- Related things that contribute the same, up to order, contribute the same together. -/
theorem perm_flatMap_of_forall₂ {f : α → List γ} {g : β → List γ} (h : List.Forall₂ R xs ys)
    (hfg : ∀ x y, R x y → (f x).Perm (g y)) : (xs.flatMap f).Perm (ys.flatMap g) := by
  induction h with
  | nil => exact .refl _
  | cons hfirst _ ih =>
      rw [List.flatMap_cons, List.flatMap_cons]
      exact (hfg _ _ hfirst).append ih

theorem forall_mem_iff_of_forall₂ {P : α → Prop} {Q : β → Prop} (h : List.Forall₂ R xs ys)
    (hPQ : ∀ x y, R x y → (P x ↔ Q y)) : (∀ x ∈ xs, P x) ↔ ∀ y ∈ ys, Q y := by
  induction h with
  | nil => simp
  | cons hfirst _ ih => rw [List.forall_mem_cons, List.forall_mem_cons, hPQ _ _ hfirst, ih]

theorem forall₂_zipIdx (h : List.Forall₂ R xs ys) (first : Nat) :
    List.Forall₂ (fun a b => R a.1 b.1 ∧ b.2 = a.2) (xs.zipIdx first) (ys.zipIdx first) := by
  induction h generalizing first with
  | nil => exact .nil
  | cons hfirst _ ih => exact .cons ⟨hfirst, rfl⟩ (ih (first + 1))

/-- What goes with related things is related. -/
theorem forall₂_of_forall₂ {S : α → γ → Prop} {T : β → δ → Prop} {U : γ → δ → Prop} {as : List γ}
    {bs : List δ} (h : List.Forall₂ R xs ys) (has : List.Forall₂ S xs as) (hbs : List.Forall₂ T ys bs)
    (hU : ∀ x y a b, R x y → S x a → T y b → U a b) : List.Forall₂ U as bs := by
  induction h generalizing as bs with
  | nil =>
      cases has
      cases hbs
      exact .nil
  | cons hfirst _ ih =>
      cases has with
      | cons ha has =>
          cases hbs with
          | cons hb hbs => exact .cons (hU _ _ _ _ hfirst ha hb) (ih has hbs)

theorem flatMap_filter_eq {P : α → Bool} {f : α → List γ} :
    (xs.filter P).flatMap f = xs.flatMap fun x => if P x then f x else [] := by
  induction xs with
  | nil => rfl
  | cons x rest ih => cases hx : P x <;> simp [hx, ih]

end Related

/-! ## Forests -/

/-- Two forests of the same shape, whose declarations are related one by one. -/
inductive DeclSpec.Aligned (R : DeclSpec → DeclSpec → Prop) : List DeclSpec → List DeclSpec → Prop where
  | nil : Aligned R [] []
  | cons {spec spec' : DeclSpec} {rest rest' : List DeclSpec} (hhead : R spec spec')
      (hmembers : Aligned R spec.members spec'.members) (hrest : Aligned R rest rest') :
      Aligned R (spec :: rest) (spec' :: rest')

/-- Nodes of aligned forests that have the same place. -/
structure Snapshot.Node.Aligned (R : DeclSpec → DeclSpec → Prop) (n n' : Node) : Prop where
  parent : n'.parent? = n.parent?
  spec : R n.spec n'.spec
  members : n'.spec.members = [] ↔ n.spec.members = []

namespace DeclSpec.Aligned

variable {R S : DeclSpec → DeclSpec → Prop} {specs specs' : List DeclSpec}

theorem mono (h : Aligned R specs specs') (hRS : ∀ spec spec', R spec spec' → S spec spec') :
    Aligned S specs specs' := by
  induction h with
  | nil => exact .nil
  | cons hhead _ _ ihMembers ihRest => exact .cons (hRS _ _ hhead) ihMembers ihRest

theorem eq_nil_iff (h : Aligned R specs specs') : specs' = [] ↔ specs = [] := by
  cases h <;> simp

theorem sizeOfAll_eq (h : Aligned R specs specs') : sizeOfAll specs' = sizeOfAll specs := by
  induction h with
  | nil => rfl
  | cons _ _ _ ihMembers ihRest => rw [sizeOfAll, sizeOfAll, size_eq, size_eq, ihMembers, ihRest]

/-- Aligned forests have related nodes in the same places. -/
theorem nodes (h : Aligned R specs specs') (first : Nat) (parent? : Option Nat) :
    List.Forall₂ (Snapshot.Node.Aligned R) (nodesOfAll first parent? specs)
      (nodesOfAll first parent? specs') := by
  induction h generalizing first parent? with
  | nil => exact .nil
  | @cons spec spec' _ _ hhead hmembers _ ihMembers ihRest =>
      have hsize : spec'.size = spec.size := by rw [size_eq, size_eq, hmembers.sizeOfAll_eq]
      rw [nodesOfAll_cons, nodesOfAll_cons, hsize]
      refine .cons ⟨rfl, hhead, hmembers.eq_nil_iff⟩ ?_
      exact List.rel_append (ihMembers _ _) (ihRest _ _)

end DeclSpec.Aligned

/-! ## What is written -/

/-- The text of a written string. -/
def ValueSpec.str? : ValueSpec → Option String
  | .str s => some s
  | _ => none

/-- The string written under a name. -/
def AttachmentSpec.str? (spec : AttachmentSpec) (name : String) : Option String :=
  (spec.values.find? name).bind ValueSpec.str?

/-- A library type under the renamed name, with the renamed supertypes in some order. -/
structure TypeSpec.Renamed (ρ : String → String) (spec spec' : TypeSpec) : Prop where
  name : spec'.name = ρ spec.name
  supertypes : (spec.supertypes.map ρ).Perm spec'.supertypes

/-- An annotation with renamed types. The classes that the sides of a proxy name are renamed with them. -/
structure AttachmentSpec.Renamed (ρ : String → String) (profile : Profile)
    (spec spec' : AttachmentSpec) : Prop where
  type : spec'.type = ρ spec.type
  typeNames : spec'.typeNames = spec.typeNames.map ρ
  value : spec'.str? "value" = spec.str? "value"
  sides : spec.type = Tag.sidedProxy.annotationName profile → ∀ side ∈ Context.proxySides,
    spec'.str? side = (spec.str? side).map ρ

/-- A declaration with renamed types and with the renamed supertypes in some order, whatever is inside
it. -/
structure DeclSpec.Renamed (ρ : String → String) (profile : Profile) (spec spec' : DeclSpec) :
    Prop where
  kind : spec'.kind = spec.kind
  /-- Only types go by names that are renamed. -/
  name : spec'.name = if spec.kind.isType then ρ spec.name else spec.name
  modifiers : spec'.modifiers = spec.modifiers
  supertypes : (spec.supertypes.map ρ).Perm spec'.supertypes
  type : spec'.type? = spec.type?.map ρ
  parameters : spec'.parameters = spec.parameters.map ρ
  returns : spec'.returns? = spec.returns?.map ρ
  attachments : List.Forall₂ (AttachmentSpec.Renamed ρ profile) spec.attachments spec'.attachments

/-- A snapshot and another one that describes the same declarations under renamed types. -/
structure Snapshot.Renamed (ρ : String → String) (profile : Profile) (s s' : Snapshot) : Prop where
  types : ∃ order, s.types.Perm order ∧ List.Forall₂ (TypeSpec.Renamed ρ) order s'.types
  declarations : DeclSpec.Aligned (DeclSpec.Renamed ρ profile) s.declarations s'.declarations

theorem AttachmentSpec.renamed_id (profile : Profile) (spec : AttachmentSpec) :
    AttachmentSpec.Renamed id profile spec spec where
  type := rfl
  typeNames := (List.map_id _).symm
  value := rfl
  sides _ side _ := (Option.map_id_apply (x := spec.str? side)).symm

/-- Under the renaming that changes no name, a declaration is renamed to itself. -/
theorem DeclSpec.renamed_id (profile : Profile) (spec : DeclSpec) :
    DeclSpec.Renamed id profile spec spec where
  kind := rfl
  name := by simp
  modifiers := rfl
  supertypes := by rw [List.map_id]
  type := Option.map_id_apply.symm
  parameters := (List.map_id _).symm
  returns := Option.map_id_apply.symm
  attachments := List.forall₂_same.2 fun attachment _ => attachment.renamed_id profile

/-- Snapshots that declare the same types and supertypes under renamed names, in whatever order. -/
structure Snapshot.TypesRenamed (ρ : String → String) (s s' : Snapshot) : Prop where
  declaredNames : (s.declaredNames.map ρ).Perm s'.declaredNames
  writes : (s.writes.map (Prod.map ρ ρ)).Perm s'.writes

theorem AttachmentSpec.flatMap_typeNames {ρ : String → String} {profile : Profile}
    {specs specs' : List AttachmentSpec} (h : List.Forall₂ (Renamed ρ profile) specs specs') :
    specs'.flatMap typeNames = (specs.flatMap typeNames).map ρ := by
  induction h with
  | nil => rfl
  | cons hfirst _ ih =>
      rw [List.flatMap_cons, List.flatMap_cons, List.map_append, hfirst.typeNames, ih]

namespace DeclSpec.Renamed

variable {ρ : String → String} {profile : Profile} {spec spec' : DeclSpec}
  (h : spec.Renamed ρ profile spec')
include h

theorem typeNames_eq : spec'.typeNames = spec.typeNames.map ρ := by
  simp only [typeNames, h.type, h.parameters, h.returns,
    AttachmentSpec.flatMap_typeNames h.attachments, List.map_append, Option.toList_map]

theorem name_of_isType (hkind : spec.kind.isType = true) : spec'.name = ρ spec.name := by
  rw [h.name, if_pos hkind]

theorem name_of_member (hkind : spec.kind.isType = false) : spec'.name = spec.name := by
  rw [h.name, hkind]
  rfl

theorem supertypes_eq_nil_iff : spec'.supertypes = [] ↔ spec.supertypes = [] := by
  have hlength := h.supertypes.length_eq
  rw [List.length_map] at hlength
  rw [← List.length_eq_zero_iff, ← List.length_eq_zero_iff, hlength]

/-- A renamed declaration writes the same parts. -/
theorem wellShaped_iff (hmembers : spec'.members = [] ↔ spec.members = []) :
    spec'.WellShaped ↔ spec.WellShaped := by
  unfold WellShaped
  rw [h.kind, h.supertypes_eq_nil_iff, hmembers, h.type, h.parameters, h.returns]
  cases spec.kind <;> simp

end DeclSpec.Renamed

/-- Built-in names are renamed to themselves, and no other name to one of them. -/
theorem TypeRenaming.mem_builtinNames_iff {ρ : String → String} (hρ : TypeRenaming ρ) (name : String) :
    ρ name ∈ Snapshot.builtinNames ↔ name ∈ Snapshot.builtinNames := by
  have hkept {builtin : String} (hmem : builtin ∈ Snapshot.builtinNames) : ρ builtin = builtin := by
    obtain ⟨entry, hentry, rfl⟩ := List.mem_map.1 hmem
    exact hρ.builtin entry hentry
  constructor
  · intro hmem
    rwa [hρ.injective (hkept hmem)] at hmem
  · intro hmem
    rwa [hkept hmem]

/-- A name is known exactly when the renamed name is. -/
theorem Snapshot.TypesRenamed.known_iff {ρ : String → String} {s s' : Snapshot}
    (h : s.TypesRenamed ρ s') (hρ : TypeRenaming ρ) (name : String) :
    ρ name ∈ s'.declaredNames ∨ ρ name ∈ builtinNames ↔
      name ∈ s.declaredNames ∨ name ∈ builtinNames := by
  rw [← h.declaredNames.mem_iff, List.mem_map_of_injective hρ.injective, hρ.mem_builtinNames_iff]

namespace Snapshot.Renamed

variable {ρ : String → String} {profile : Profile} {s s' : Snapshot} (h : s.Renamed ρ profile s')
include h

theorem nodes : List.Forall₂ (Node.Aligned (DeclSpec.Renamed ρ profile)) s.nodes s'.nodes :=
  h.declarations.nodes 0 none

/-! ### Names -/

/-- What library types and nodes contribute, up to the order of library types. -/
theorem perm_flatMap {α : Type} {f f' : TypeSpec → List α} {g g' : Node → List α}
    (hf : ∀ spec spec', TypeSpec.Renamed ρ spec spec' → (f spec).Perm (f' spec'))
    (hg : ∀ n n', Node.Aligned (DeclSpec.Renamed ρ profile) n n' → (g n).Perm (g' n')) :
    (s.types.flatMap f ++ s.nodes.flatMap g).Perm (s'.types.flatMap f' ++ s'.nodes.flatMap g') := by
  obtain ⟨order, horder, htypes⟩ := h.types
  have htypes : (s.types.flatMap f).Perm (s'.types.flatMap f') :=
    (horder.flatMap_right f).trans (perm_flatMap_of_forall₂ htypes hf)
  exact htypes.append (perm_flatMap_of_forall₂ h.nodes hg)

theorem declaredNames_perm : (s.declaredNames.map ρ).Perm s'.declaredNames := by
  have hdeclared (s : Snapshot) : s.declaredNames = s.types.flatMap (fun spec => [spec.name]) ++
      s.nodes.flatMap fun n => if n.spec.kind.isType then [n.spec.name] else [] := by
    rw [declaredNames, List.map_eq_flatMap, List.map_eq_flatMap, flatMap_filter_eq]
  rw [hdeclared, hdeclared, List.map_append, List.map_flatMap, List.map_flatMap]
  refine h.perm_flatMap (fun spec spec' hspec => ?_) fun n n' hn => ?_
  · simp [hspec.name]
  · rw [hn.spec.kind, hn.spec.name]
    split <;> simp

theorem referencedNames_perm : (s.referencedNames.map ρ).Perm s'.referencedNames := by
  rw [referencedNames, referencedNames, List.map_append, List.map_flatMap, List.map_flatMap]
  refine h.perm_flatMap (fun spec spec' hspec => hspec.supertypes) fun n n' hn => ?_
  rw [List.map_append, hn.spec.typeNames_eq]
  exact hn.spec.supertypes.append_right _

theorem writes_perm : (s.writes.map (Prod.map ρ ρ)).Perm s'.writes := by
  have hwrites (s : Snapshot) : s.writes =
      s.types.flatMap (fun spec => spec.supertypes.map fun super => (spec.name, super)) ++
        s.nodes.flatMap fun n => if n.spec.kind.isType then
          n.spec.supertypes.map fun super => (n.spec.name, super) else [] := by
    rw [writes, namedTypes, DeclSpec.namedTypesOfAll_eq s.declarations 0 none, ← Snapshot.nodes,
      List.flatMap_append, List.flatMap_map, List.flatMap_map, flatMap_filter_eq]
  rw [hwrites, hwrites, List.map_append, List.map_flatMap, List.map_flatMap]
  have hpairs {name : String} {supers supers' : List String} (hsupers : (supers.map ρ).Perm supers') :
      ((supers.map fun super => (name, super)).map (Prod.map ρ ρ)).Perm
        (supers'.map fun super => (ρ name, super)) := by
    have hmap := hsupers.map fun super => (ρ name, super)
    simpa [Function.comp_def] using hmap
  refine h.perm_flatMap (fun spec spec' hspec => ?_) fun n n' hn => ?_
  · rw [hspec.name]
    exact hpairs hspec.supertypes
  · rw [hn.spec.kind, hn.spec.name]
    split
    case isTrue => exact hpairs hn.spec.supertypes
    case isFalse => exact .refl _

theorem typesRenamed : s.TypesRenamed ρ s' :=
  ⟨h.declaredNames_perm, h.writes_perm⟩

/-! ### Loading -/

variable (hρ : TypeRenaming ρ)
include hρ

/-- Renamed snapshots can be loaded together or not at all. -/
theorem acceptable_iff : s'.Acceptable ↔ s.Acceptable := by
  have hdistinct : s'.declaredNames.Nodup ↔ s.declaredNames.Nodup := by
    rw [← h.declaredNames_perm.nodup_iff, List.nodup_map_iff hρ.injective]
  have hclosed : (∀ name ∈ s'.referencedNames, name ∈ s'.declaredNames ∨ name ∈ builtinNames) ↔
      ∀ name ∈ s.referencedNames, name ∈ s.declaredNames ∨ name ∈ builtinNames := by
    simp only [← h.referencedNames_perm.mem_iff, List.forall_mem_map, h.typesRenamed.known_iff hρ]
  have hshaped : (∀ n ∈ s'.nodes, n.spec.WellShaped) ↔ ∀ n ∈ s.nodes, n.spec.WellShaped :=
    (forall_mem_iff_of_forall₂ h.nodes fun n n' hn => (hn.spec.wellShaped_iff hn.members).symm).symm
  -- the declaration around one has its counterpart in the same place
  have haround (d : Nat) : (∃ m, s'.nodes[d]? = some m ∧ m.spec.kind.isType = true) ↔
      ∃ m, s.nodes[d]? = some m ∧ m.spec.kind.isType = true := by
    rcases rel_cases (rel_getElem?_of_forall₂ h.nodes d) with
      ⟨hnone, hnone'⟩ | ⟨m, m', hsome, hsome', hm⟩
    · simp [hnone, hnone']
    · simp [hsome, hsome', hm.spec.kind]
  have hplaced : (∀ n ∈ s'.nodes, n.spec.kind.isType = false →
        ∃ d m, n.parent? = some d ∧ s'.nodes[d]? = some m ∧ m.spec.kind.isType = true) ↔
      ∀ n ∈ s.nodes, n.spec.kind.isType = false →
        ∃ d m, n.parent? = some d ∧ s.nodes[d]? = some m ∧ m.spec.kind.isType = true := by
    refine (forall_mem_iff_of_forall₂ h.nodes fun n n' hn => ?_).symm
    rw [hn.spec.kind, hn.parent]
    simp only [exists_and_left, haround]
  constructor
  · intro hs
    exact ⟨hdistinct.1 hs.distinct, hclosed.1 hs.closed, hshaped.1 hs.shaped, hplaced.1 hs.placed⟩
  · intro hs
    exact ⟨hdistinct.2 hs.distinct, hclosed.2 hs.closed, hshaped.2 hs.shaped, hplaced.2 hs.placed⟩

theorem exists_load_iff : (∃ p', s'.load = .ok p') ↔ ∃ p, s.load = .ok p := by
  constructor
  · intro h'
    obtain ⟨p', hp'⟩ := h'
    exact ((h.acceptable_iff hρ).1 (acceptable_of_load hp')).exists_load
  · intro h'
    obtain ⟨p, hp⟩ := h'
    exact ((h.acceptable_iff hρ).2 (acceptable_of_load hp)).exists_load

end Snapshot.Renamed

end ModContracts
