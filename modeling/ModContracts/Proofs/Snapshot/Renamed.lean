import ModContracts.Proofs.Program.Kinds
import ModContracts.Proofs.Snapshot.Aligned

/-!
# Programs of renamed snapshots

The programs that two renamed snapshots describe are alike: declarations and attachments have the same
ids, and types correspond by their names, whichever ids they have.

* `ValueSpec.str?_of_means` — strings are loaded as they are written;
* `Snapshot.Node.Becomes.alike`, `AttachmentSpec.Means.alike` — one declaration and one attachment;
* `Program.WellFormed.introducing?_eq`, `Program.WellFormed.carriersOf_eq` — the indexes, which the tables
  decide;
* `Snapshot.TypesRenamed.load` — the types of both programs;
* `Snapshot.Renamed.load` — the programs.
-/

namespace ModContracts

/-! ## Strings -/

section Strings

variable {ids : TypeIds}

theorem ValueSpec.str?_of_means : ∀ {spec : ValueSpec} {v : Value}, Means ids spec v →
    v.str? = spec.str?
  | .bool _, _, rfl => rfl
  | .int _, _, rfl => rfl
  | .str _, _, rfl => rfl
  | .classLiteral _, _, ⟨_, _, rfl⟩ => rfl
  | .nested .., _, ⟨_, _, _, _, rfl⟩ => rfl
  | .list _, _, ⟨_, _, rfl⟩ => rfl

theorem ValueSpec.str?_of_entriesMean {specs : List (String × ValueSpec)}
    {entries : List (String × Value)} (h : EntriesMean ids specs entries) (name : String) :
    (Keyed.find? entries name).bind Value.str? = (Keyed.find? specs name).bind ValueSpec.str? := by
  induction specs generalizing entries with
  | nil =>
      obtain rfl : entries = [] := h
      rfl
  | cons entry rest ih =>
      obtain ⟨v, ws, hv, hws, rfl⟩ := h
      rw [Keyed.find?, Keyed.find?]
      by_cases hname : entry.1 = name
      · rw [if_pos hname, if_pos hname]
        exact str?_of_means hv
      · rw [if_neg hname, if_neg hname]
        exact ih hws

/-- A string is attached as it is written. -/
theorem AttachmentSpec.Means.str?_eq {spec : AttachmentSpec} {d : DeclId} {attached : Attachment}
    (h : spec.Means ids d attached) (name : String) : attached.str? name = spec.str? name :=
  ValueSpec.str?_of_entriesMean h.values name

end Strings

/-! ## Nodes of the same shape -/

namespace Snapshot

variable {R : DeclSpec → DeclSpec → Prop} {ns ns' : List Node}

/-- In aligned forests the same nodes stand in a declaration. -/
theorem map_fst_childrenIn (h : List.Forall₂ (Node.Aligned R) ns ns') (first d : Nat) :
    (childrenIn first ns' d).map Prod.fst = (childrenIn first ns d).map Prod.fst := by
  induction h generalizing first with
  | nil => rfl
  | @cons n n' _ _ hfirst _ ih =>
      by_cases hparent : n.parent? = some d
      · have hparent' : n'.parent? = some d := hfirst.parent.trans hparent
        rw [childrenIn_cons_of_parent hparent, childrenIn_cons_of_parent hparent', List.map_cons,
          List.map_cons, ih]
      · have hparent' : n'.parent? ≠ some d := fun heq => hparent (hfirst.parent.symm.trans heq)
        rw [childrenIn_cons_of_ne hparent, childrenIn_cons_of_ne hparent', ih]

/-- The annotations on renamed declarations, each on the declaration in the same place. -/
theorem forall₂_annotations {ρ : String → String} {profile : Profile}
    (h : List.Forall₂ (Node.Aligned (DeclSpec.Renamed ρ profile)) ns ns') :
    List.Forall₂ (fun placed placed' => placed'.1 = placed.1 ∧
      AttachmentSpec.Renamed ρ profile placed.2 placed'.2) (annotations ns) (annotations ns') := by
  refine List.rel_flatMap (forall₂_zipIdx h 0) ?_
  rintro ⟨n, d⟩ ⟨n', d'⟩ ⟨hn, hd⟩
  obtain rfl : d' = d := hd
  rw [List.forall₂_map_left_iff, List.forall₂_map_right_iff]
  exact hn.spec.attachments.imp fun _ _ hspec => ⟨rfl, hspec⟩

end Snapshot

/-! ## Entries of the tables -/

section Entries

variable {ρ : String → String} {profile : Profile} {p p' : Program} (hp : p.Indexed)
  (hp' : p'.Indexed)
include hp hp'

theorem StandFor.counterparts {names : List String} {types types' : List TypeId}
    (h : StandFor p.typeId? names types) (h' : StandFor p'.typeId? (names.map ρ) types') :
    List.Forall₂ (Program.Counterpart ρ p p') types types' := by
  have hnames : List.Forall₂ (fun name name' => name' = ρ name) names (names.map ρ) := by
    rw [List.forall₂_map_right_iff, List.forall₂_same]
    exact fun _ _ => rfl
  refine forall₂_of_forall₂ hnames h h' fun name name' t t' hname ht ht' => ?_
  subst hname
  exact .of_typeId? hp hp' ht ht'

/-- An annotation and a renamed one become attachments that are alike. -/
theorem AttachmentSpec.Means.alike {spec spec' : AttachmentSpec} {d : DeclId}
    {attached attached' : Attachment} (hspec : spec.Renamed ρ profile spec')
    (h : spec.Means p.typeId? d attached) (h' : spec'.Means p'.typeId? d attached') :
    Attachment.Alike ρ (Program.Counterpart ρ p p') (p.IsProxyType profile) attached attached' where
  owner := h'.owner.trans h.owner.symm
  type := by
    have htype' := h'.type
    rw [hspec.type] at htype'
    exact .of_typeId? hp hp' h.type htype'
  value := by rw [h.str?_eq, h'.str?_eq, hspec.value]
  sides hproxy side hside := by
    have hname : spec.type = Tag.sidedProxy.annotationName profile :=
      Except.ok.inj ((hp.typeName_of_typeId? h.type).symm.trans hproxy)
    rw [h.str?_eq, h'.str?_eq, hspec.sides hname side hside]

/-- What a node and a renamed one say about their declarations is alike. -/
theorem Snapshot.Node.Describes.signature_alike (hρ : TypeRenaming ρ) {n n' : Node}
    {decl decl' : Declaration} (hspec : n.spec.Renamed ρ profile n'.spec)
    (h : n.Describes p.typeId? decl) (h' : n'.Describes p'.typeId? decl') :
    AgreeUnder ρ decl.name decl'.name ∧
      Option.Rel (Program.Counterpart ρ p p') decl.type? decl'.type? ∧
      List.Forall₂ (Program.Counterpart ρ p p') decl.parameters decl'.parameters ∧
      Option.Rel (Program.Counterpart ρ p p') decl.returns? decl'.returns? := by
  have hsignature := h.signature
  have hsignature' := h'.signature
  unfold Signature at hsignature hsignature'
  rw [hspec.kind] at hsignature'
  cases hkind : n.spec.kind with
  | method =>
      simp only [hkind] at hsignature hsignature'
      obtain ⟨hd, htype, hparameters, t, ht, hreturns⟩ := hsignature
      obtain ⟨hd', htype', hparameters', t', ht', hreturns'⟩ := hsignature'
      have hname : decl.name = decl'.name := by
        rw [hd, hd', hspec.name_of_member (by rw [hkind]; rfl)]
      rw [hspec.parameters] at hparameters'
      rw [hspec.returns, getD_map_of_fixed (hρ.builtin ⟨"void", .void, []⟩ (by decide))] at ht'
      rw [htype, htype', hreturns, hreturns']
      exact ⟨.of_eq hname, .none, hparameters.counterparts hp hp' hparameters',
        .some (.of_typeId? hp hp' ht ht')⟩
  | constructor =>
      simp only [hkind] at hsignature hsignature'
      obtain ⟨hd, htype, hparameters, hreturns⟩ := hsignature
      obtain ⟨hd', htype', hparameters', hreturns'⟩ := hsignature'
      rw [hspec.parameters] at hparameters'
      rw [htype, htype', hreturns, hreturns']
      exact ⟨.of_eq (hd.trans hd'.symm), .none, hparameters.counterparts hp hp' hparameters', .none⟩
  | field =>
      simp only [hkind] at hsignature hsignature'
      obtain ⟨hd, ⟨t, ht, htype⟩, hparameters, hreturns⟩ := hsignature
      obtain ⟨hd', ⟨t', ht', htype'⟩, hparameters', hreturns'⟩ := hsignature'
      have hname : decl.name = decl'.name := by
        rw [hd, hd', hspec.name_of_member (by rw [hkind]; rfl)]
      rw [hspec.type, getD_map_of_fixed hρ.empty] at ht'
      rw [htype, htype', hparameters, hparameters', hreturns, hreturns']
      exact ⟨.of_eq hname, .some (.of_typeId? hp hp' ht ht'), .nil, .none⟩
  | _ =>
      simp only [hkind] at hsignature hsignature'
      obtain ⟨hd, ⟨t, ht, htype⟩, hparameters, hreturns⟩ := hsignature
      obtain ⟨hd', ⟨t', ht', htype'⟩, hparameters', hreturns'⟩ := hsignature'
      rw [hspec.name_of_isType (by rw [hkind]; rfl)] at hd' ht'
      rw [hd, hd', htype, htype', hparameters, hparameters', hreturns, hreturns']
      exact ⟨(AgreeUnder.rename _).map lastSegment, .some (.of_typeId? hp hp' ht ht'), .nil, .none⟩

/-- A node and a renamed one become declarations that are alike. -/
theorem Snapshot.Node.Becomes.alike (hρ : TypeRenaming ρ) {ns ns' : List Node}
    (hns : List.Forall₂ (Node.Aligned (DeclSpec.Renamed ρ profile)) ns ns') {n n' : Node} {d : Nat}
    {decl decl' : Declaration} (hn : n.Aligned (DeclSpec.Renamed ρ profile) n')
    (h : n.Becomes p.typeId? ns d decl) (h' : n'.Becomes p'.typeId? ns' d decl') :
    Declaration.Alike ρ (Program.Counterpart ρ p p') decl decl' := by
  obtain ⟨hname, htype, hparameters, hreturns⟩ :=
    h.toDescribes.signature_alike hp hp' hρ hn.spec h'.toDescribes
  have hbefore : (annotations (ns'.take d)).length = (annotations (ns.take d)).length :=
    (forall₂_annotations (List.forall₂_take d hns)).length_eq.symm
  exact {
    kind := by rw [h.kind, h'.kind, hn.spec.kind]
    name := hname
    type := htype
    modifiers := by rw [h.modifiers, h'.modifiers, hn.spec.modifiers]
    enclosing := by rw [h.enclosing, h'.enclosing, hn.parent]
    members := by rw [h.members, h'.members, map_fst_childrenIn hns]
    parameters := hparameters
    returns := hreturns
    attachments := by
      rw [h.attachments, h'.attachments, hbefore, hn.spec.attachments.length_eq] }

end Entries

/-! ## Indexes -/

namespace Program.WellFormed

variable {ρ : String → String} {p p' : Program} {t t' : TypeId} (hp : p.WellFormed)
  (hp' : p'.WellFormed) (hρ : Function.Injective ρ)
include hp hp' hρ

/-- Counterparts are introduced by the same declaration. -/
theorem introducing?_eq (hdeclarations : List.Forall₂ (Declaration.Alike ρ (Counterpart ρ p p'))
    p.declarations p'.declarations) (ht : Counterpart ρ p p' t t') :
    p'.introducing? t' = p.introducing? t := by
  refine Option.ext fun d => ?_
  rw [hp.introducing, hp'.introducing]
  rcases rel_cases (rel_getElem?_of_forall₂ hdeclarations d) with
    ⟨hnone, hnone'⟩ | ⟨decl, decl', hsome, hsome', hdecl⟩
  · simp [hnone, hnone']
  · simp [hsome, hsome', ht.introduced?_iff hp.indexed hp'.indexed hρ hdecl.matched]

/-- Counterparts are carried by the same declarations. -/
theorem carriersOf_eq {isProxy : TypeId → Prop}
    (hdeclarations : List.Forall₂ (Declaration.Alike ρ (Counterpart ρ p p')) p.declarations
      p'.declarations)
    (hattachments : List.Forall₂ (Attachment.Alike ρ (Counterpart ρ p p') isProxy) p.attachments
      p'.attachments)
    (ht : Counterpart ρ p p' t t') : p'.carriersOf t' = p.carriersOf t := by
  have hoftype (a : AttachmentId) : p'.isOfType t' a = p.isOfType t a := by
    unfold isOfType
    rcases rel_cases (rel_getElem?_of_forall₂ hattachments a) with
      ⟨hnone, hnone'⟩ | ⟨attached, attached', hsome, hsome', hattached⟩
    · rw [hnone, hnone']
      rfl
    · rw [hsome, hsome', Option.any_some, Option.any_some]
      simp only [hattached.type.eq_iff hp.indexed hp'.indexed hρ ht]
  have hwears (d : DeclId) : p'.wears t' d = p.wears t d := by
    unfold wears
    rcases rel_cases (rel_getElem?_of_forall₂ hdeclarations d) with
      ⟨hnone, hnone'⟩ | ⟨decl, decl', hsome, hsome', hdecl⟩
    · rw [hnone, hnone']
      rfl
    · rw [hsome, hsome', Option.any_some, Option.any_some, hdecl.attachments]
      exact List.any_congr rfl hoftype
  rw [hp.carriersOf, hp'.carriersOf, hdeclarations.length_eq]
  exact List.filter_congr fun d _ => hwears d

end Program.WellFormed

/-! ## Loaded programs -/

/-- A renaming keeps the kinds of the types that names stand for. -/
theorem TypeRenaming.kindOfName_eq {ρ : String → String} (hρ : TypeRenaming ρ) (name : String) :
    Program.kindOfName (ρ name) = Program.kindOfName name := by
  by_cases hname : name ∈ Snapshot.builtinNames
  · obtain ⟨entry, hentry, rfl⟩ := List.mem_map.1 hname
    rw [hρ.builtin entry hentry]
  · have hname' : ρ name ∉ Snapshot.builtinNames :=
      mt (hρ.mem_builtinNames_iff name).1 hname
    rw [Program.kindOfName_of_not_mem hname, Program.kindOfName_of_not_mem hname']

namespace Snapshot.TypesRenamed

variable {ρ : String → String} {s s' : Snapshot} {p p' : Program} {t t' u u' : TypeId}
  (h : s.TypesRenamed ρ s') (hρ : TypeRenaming ρ) (hp : s.load = .ok p)
  (hp' : s'.load = .ok p')
include h hρ hp hp'

theorem mem_names_iff (name' : String) : name' ∈ p'.names ↔ ∃ name ∈ p.names, ρ name = name' := by
  simp only [mem_names_of_load hp, mem_names_of_load hp']
  constructor
  · rintro (hdeclared | hbuiltin)
    · rw [← h.declaredNames.mem_iff, List.mem_map] at hdeclared
      obtain ⟨name, hname, heq⟩ := hdeclared
      exact ⟨name, .inl hname, heq⟩
    · obtain ⟨entry, hentry, rfl⟩ := List.mem_map.1 hbuiltin
      exact ⟨entry.name, .inr hbuiltin, hρ.builtin entry hentry⟩
  · intro h'
    obtain ⟨name, hname, rfl⟩ := h'
    exact (h.known_iff hρ name).2 hname

/-- A name stands for a type exactly when the renamed name does. -/
theorem exists_typeId?_iff (name : String) :
    (∃ t', p'.typeId? (ρ name) = some t') ↔ ∃ t, p.typeId? name = some t := by
  rw [(holds_of_load hp).1.exists_typeId?_iff, (holds_of_load hp').1.exists_typeId?_iff,
    mem_names_of_load hp, mem_names_of_load hp', h.known_iff hρ]

theorem extends_left (ht : Program.Counterpart ρ p p' t t') (hextends : p.Extends t u) :
    ∃ u', Program.Counterpart ρ p p' u u' ∧ p'.Extends t' u' := by
  obtain ⟨hindexed, -⟩ := holds_of_load hp
  obtain ⟨hindexed', -⟩ := holds_of_load hp'
  obtain ⟨name, super, hwrites, hname, hsuper⟩ := (extends_iff_of_load hp).1 hextends
  have hwrites' : (ρ name, ρ super) ∈ s'.writes :=
    h.writes.mem_iff.1 (List.mem_map_of_mem hwrites)
  have hname' : p'.typeId? (ρ name) = some t' := ht.typeId?_eq hindexed hindexed' hname
  obtain ⟨u', hsuper'⟩ := (h.exists_typeId?_iff hρ hp hp' super).2 ⟨u, hsuper⟩
  exact ⟨u', .of_typeId? hindexed hindexed' hsuper hsuper',
    (extends_iff_of_load hp').2 ⟨_, _, hwrites', hname', hsuper'⟩⟩

theorem extends_right (ht : Program.Counterpart ρ p p' t t') (hextends : p'.Extends t' u') :
    ∃ u, Program.Counterpart ρ p p' u u' ∧ p.Extends t u := by
  obtain ⟨hindexed, -⟩ := holds_of_load hp
  obtain ⟨hindexed', -⟩ := holds_of_load hp'
  obtain ⟨name', super', hwrites', hname', hsuper'⟩ := (extends_iff_of_load hp').1 hextends
  rw [← h.writes.mem_iff, List.mem_map] at hwrites'
  obtain ⟨⟨name, super⟩, hwrites, heq⟩ := hwrites'
  obtain ⟨rfl, rfl⟩ := Prod.mk.inj heq
  obtain ⟨v, hv⟩ := (h.exists_typeId?_iff hρ hp hp' name).1 ⟨t', hname'⟩
  obtain ⟨u, hsuper⟩ := (h.exists_typeId?_iff hρ hp hp' super).1 ⟨u', hsuper'⟩
  -- the type that the supertype is written for is the one whose counterpart has it
  have hcounterpart : Program.Counterpart ρ p p' v t' := .of_typeId? hindexed hindexed' hv hname'
  obtain rfl : v = t := hcounterpart.injective hindexed hρ.injective ht
  exact ⟨u, .of_typeId? hindexed hindexed' hsuper hsuper',
    (extends_iff_of_load hp).2 ⟨_, _, hwrites, hv, hsuper⟩⟩

/-- Snapshots that declare the same types describe programs whose types are alike. -/
theorem load : p.TypesRenamed ρ p' where
  indexed := (holds_of_load hp).1
  indexed' := (holds_of_load hp').1
  builtin := (built_of_load hp).typeName_builtin
  builtin' := (built_of_load hp').typeName_builtin
  names := h.mem_names_iff hρ hp hp'
  typeKind ht := by
    obtain ⟨name, hname, hname'⟩ := ht
    rw [(built_of_load hp).typeKind?_eq hname, (built_of_load hp').typeKind?_eq hname',
      hρ.kindOfName_eq]
  extends_left := h.extends_left hρ hp hp'
  extends_right := h.extends_right hρ hp hp'

end Snapshot.TypesRenamed

namespace Snapshot.Renamed

variable {ρ : String → String} {profile : Profile} {s s' : Snapshot} {p p' : Program}
  (h : s.Renamed ρ profile s') (hρ : TypeRenaming ρ) (hp : s.load = .ok p) (hp' : s'.load = .ok p')
include h hρ hp hp'

/-- Renamed snapshots have alike declarations. -/
theorem declarations_alike : List.Forall₂ (Declaration.Alike ρ (Program.Counterpart ρ p p'))
    p.declarations p'.declarations := by
  obtain ⟨hindexed, hholds⟩ := holds_of_load hp
  obtain ⟨hindexed', hholds'⟩ := holds_of_load hp'
  have hlength : p.declarations.length = p'.declarations.length := by
    rw [hholds.length_declarations, hholds'.length_declarations, h.nodes.length_eq]
  refine List.forall₂_iff_get.2 ⟨hlength, fun d hd hd' => ?_⟩
  obtain ⟨n, hn, hbecomes⟩ := hholds.node_of_declaration (List.getElem?_eq_getElem hd)
  obtain ⟨n', hn', hbecomes'⟩ := hholds'.node_of_declaration (List.getElem?_eq_getElem hd')
  have hrel := rel_getElem?_of_forall₂ h.nodes d
  rw [hn, hn'] at hrel
  cases hrel with
  | some haligned => exact hbecomes.alike hindexed hindexed' hρ h.nodes haligned hbecomes'

omit hρ in
theorem attachments_alike :
    List.Forall₂ (Attachment.Alike ρ (Program.Counterpart ρ p p') (p.IsProxyType profile))
      p.attachments p'.attachments := by
  obtain ⟨hindexed, hholds⟩ := holds_of_load hp
  obtain ⟨hindexed', hholds'⟩ := holds_of_load hp'
  refine forall₂_of_forall₂ (forall₂_annotations h.nodes) hholds.attachments hholds'.attachments ?_
  intro placed placed' attached attached' hplaced hmeans hmeans'
  rw [hplaced.1] at hmeans'
  exact hmeans.alike hindexed hindexed' hplaced.2 hmeans'

/-- Renamed snapshots describe programs that are alike. -/
theorem load : p.Renamed ρ profile p' := by
  have hwf := wellFormed_of_load hp
  have hwf' := wellFormed_of_load hp'
  have hdeclarations := h.declarations_alike hρ hp hp'
  have hattachments := h.attachments_alike hp hp'
  exact {
    toTypesRenamed := h.typesRenamed.load hρ hp hp'
    declarations := hdeclarations
    attachments := hattachments
    introducing := hwf.introducing?_eq hwf' hρ.injective hdeclarations
    carriersOf := hwf.carriersOf_eq hwf' hρ.injective hdeclarations hattachments }

end Snapshot.Renamed

end ModContracts
