import ModContracts.Proofs.Snapshot.Nodes
import ModContracts.Proofs.Snapshot.Types

/-!
# Which snapshots can be loaded

A snapshot describes a program exactly when its types have different names, everything it refers to
is a type it names or a built-in one, and every declaration has the shape of its kind in a place
where its kind may stand.

* `Snapshot.declaredNames`, `Snapshot.referencedNames` — the type names a snapshot introduces and
  refers to;
* `Snapshot.Acceptable` — the condition, as a reader of the snapshot would check it;
* `Snapshot.loads_iff_acceptable` — the condition decides whether the snapshot can be loaded.
-/

namespace ModContracts

namespace DeclSpec

theorem namedTypesOfAll_cons (spec : DeclSpec) (rest : List DeclSpec) :
    namedTypesOfAll (spec :: rest) =
      (if spec.kind.isType then [(spec.name, spec.supertypes)] else []) ++
        namedTypesOfAll spec.members ++ namedTypesOfAll rest := by
  cases spec
  rfl

/-- The types of a forest are named by its nodes, in the same order. -/
theorem namedTypesOfAll_eq (specs : List DeclSpec) (first : Nat) (parent? : Option Nat) :
    namedTypesOfAll specs =
      ((nodesOfAll first parent? specs).filter (·.spec.kind.isType)).map
        fun n => (n.spec.name, n.spec.supertypes) := by
  induction specs using forest_induction generalizing first parent? with
  | nil => rfl
  | cons spec rest ihMembers ihRest =>
      rw [namedTypesOfAll_cons, nodesOfAll_cons, List.filter_cons,
        ihMembers (first + 1) (some first), ihRest (first + spec.size) parent?]
      cases spec.kind.isType <;> simp

end DeclSpec

namespace Snapshot

variable {s : Snapshot} {p : Program}

/-- The names of the types a snapshot introduces: library types, then type declarations wherever
they stand. -/
def declaredNames (s : Snapshot) : List String :=
  s.types.map TypeSpec.name ++
    (s.nodes.filter (·.spec.kind.isType)).map (·.spec.name)

/-- The type names a snapshot refers to. -/
def referencedNames (s : Snapshot) : List String :=
  s.types.flatMap TypeSpec.supertypes ++
    s.nodes.flatMap fun n => n.spec.supertypes ++ n.spec.typeNames

/-- What makes a snapshot describe a program. -/
structure Acceptable (s : Snapshot) : Prop where
  /-- No name stands for two types. -/
  distinct : s.declaredNames.Nodup
  /-- Every type that is referred to is declared somewhere, or built in. -/
  closed : ∀ name ∈ s.referencedNames, name ∈ s.declaredNames ∨ name ∈ builtinNames
  /-- Every declaration writes the parts of its kind. -/
  shaped : ∀ n ∈ s.nodes, n.spec.WellShaped
  /-- Methods, constructors and fields stand directly inside a type declaration. -/
  placed : ∀ n ∈ s.nodes, n.spec.kind.isType = false →
    ∃ d m, n.parent? = some d ∧ s.nodes[d]? = some m ∧ m.spec.kind.isType = true

theorem map_fst_namedTypes (s : Snapshot) : s.namedTypes.map Prod.fst = s.declaredNames := by
  rw [namedTypes, DeclSpec.namedTypesOfAll_eq s.declarations 0 none, declaredNames, nodes]
  simp [Function.comp_def]

theorem mem_flatMap_snd_namedTypes {x : String} :
    x ∈ s.namedTypes.flatMap Prod.snd ↔
      x ∈ s.types.flatMap TypeSpec.supertypes ∨
        ∃ n ∈ s.nodes, n.spec.kind.isType = true ∧ x ∈ n.spec.supertypes := by
  rw [namedTypes, DeclSpec.namedTypesOfAll_eq s.declarations 0 none, ← nodes]
  simp [List.mem_flatMap, and_assoc]

/-- After the types are loaded, a program knows exactly the built-in and the declared names. -/
theorem exists_typeId?_iff_of_loadTypes (h : s.loadTypes = .ok p) (name : String) :
    (∃ t, p.typeId? name = some t) ↔ name ∈ s.declaredNames ∨ name ∈ builtinNames := by
  obtain ⟨hindexed, -, hnames⟩ := loadTypes_ok h
  rw [hindexed.exists_typeId?_iff, hnames, map_fst_namedTypes, or_comm]

/-- Once the types are loaded, loading a snapshot is loading its nodes. -/
theorem load_eq_loadNodes (h : s.loadTypes = .ok p) : s.load = loadNodes p s.nodes := by
  obtain ⟨hindexed, hbare, -⟩ := loadTypes_ok h
  unfold load
  rw [h]
  change DeclSpec.loadAll p none s.declarations = _
  rw [DeclSpec.loadAll_eq_loadNodes hindexed, hbare.declarations, nodes]
  rfl

/-- A snapshot whose types are loaded can be loaded if each of its nodes can. -/
theorem exists_load_iff_of_loadTypes (h : s.loadTypes = .ok p) :
    (∃ q, s.load = .ok q) ↔ ∀ n ∈ s.nodes,
      (n.spec.WellShaped ∧ (n.spec.kind.isType = true ∨ n.parent?.isSome = true)) ∧
        ∀ name ∈ n.spec.typeNames, name ∈ s.declaredNames ∨ name ∈ builtinNames := by
  obtain ⟨hindexed, -, -⟩ := loadTypes_ok h
  have hvoid : ∃ t, p.typeId? "void" = some t :=
    (exists_typeId?_iff_of_loadTypes h "void").2 (.inr (by decide))
  rw [load_eq_loadNodes h, exists_loadNodes_iff hindexed hvoid]
  refine forall₂_congr fun n hn => ?_
  rw [Node.exists_load_iff hindexed hvoid]
  simp only [Resolve, exists_typeId?_iff_of_loadTypes h]
  -- a type declaration is named by one of the declared names
  have hown : n.spec.kind.isType = true →
      n.spec.name ∈ s.declaredNames ∨ n.spec.name ∈ builtinNames := fun hkind =>
    .inl (List.mem_append_right _ (List.mem_map_of_mem (List.mem_filter.2 ⟨hn, hkind⟩)))
  constructor
  · intro h'
    obtain ⟨hshape, -, hnames⟩ := h'
    exact ⟨hshape, hnames⟩
  · intro h'
    obtain ⟨hshape, hnames⟩ := h'
    exact ⟨hshape, hown, hnames⟩

/-- In a snapshot whose declarations have the shape of their kinds, whatever stands inside another
declaration stands inside a type declaration. -/
theorem exists_type_around (hshaped : ∀ n ∈ s.nodes, n.spec.WellShaped) {n : Node}
    (hn : n ∈ s.nodes) (hparent : n.parent?.isSome = true) :
    ∃ d m, n.parent? = some d ∧ s.nodes[d]? = some m ∧ m.spec.kind.isType = true := by
  obtain ⟨i, hi⟩ := List.mem_iff_getElem?.1 hn
  obtain ⟨d, hd⟩ := Option.isSome_iff_exists.1 hparent
  have hlt : d < s.nodes.length :=
    Nat.lt_trans (parent_lt hi hd) (List.getElem?_eq_some_iff.1 hi).1
  have hm : s.nodes[d]? = some s.nodes[d] := List.getElem?_eq_getElem hlt
  have hmember : n.spec ∈ s.nodes[d].spec.members := spec_mem_members hi hd hm
  exact ⟨d, s.nodes[d], hd, hm,
    (hshaped _ (List.getElem_mem hlt)).isType_of_members (List.ne_nil_of_mem hmember)⟩

/-- A snapshot that can be loaded is acceptable. -/
theorem acceptable_of_load {q : Program} (hq : s.load = .ok q) : s.Acceptable := by
  obtain ⟨p, hp, -⟩ := bind_eq_ok_iff.1 hq
  obtain ⟨hnodup, hsupers⟩ := exists_loadTypes_iff.1 ⟨p, hp⟩
  have hnodes := (exists_load_iff_of_loadTypes hp).1 ⟨q, hq⟩
  have hshaped : ∀ n ∈ s.nodes, n.spec.WellShaped := fun n hn => (hnodes n hn).1.1
  have hdeclared {name : String}
      (hname : name ∈ builtinNames ∨ name ∈ s.namedTypes.map Prod.fst) :
      name ∈ s.declaredNames ∨ name ∈ builtinNames := by
    rwa [map_fst_namedTypes, or_comm] at hname
  refine ⟨map_fst_namedTypes s ▸ hnodup, fun name hname => ?_, hshaped, fun n hn hkind => ?_⟩
  · rcases List.mem_append.1 hname with hlib | hnode
    · exact hdeclared (hsupers name (mem_flatMap_snd_namedTypes.2 (.inl hlib)))
    · obtain ⟨n, hn, hname⟩ := List.mem_flatMap.1 hnode
      -- supertypes are looked up with the types, all other names with the node
      rcases List.mem_append.1 hname with hsuper | hname
      · have hkind := (hshaped n hn).isType_of_supertypes (List.ne_nil_of_mem hsuper)
        exact hdeclared
          (hsupers name (mem_flatMap_snd_namedTypes.2 (.inr ⟨n, hn, hkind, hsuper⟩)))
      · exact (hnodes n hn).2 name hname
  · refine exists_type_around hshaped hn ((hnodes n hn).1.2.resolve_left ?_)
    simp [hkind]

/-- An acceptable snapshot can be loaded. -/
theorem Acceptable.exists_load (h : s.Acceptable) : ∃ p, s.load = .ok p := by
  obtain ⟨p, hp⟩ : ∃ p, s.loadTypes = .ok p := by
    rw [exists_loadTypes_iff, map_fst_namedTypes]
    refine ⟨h.distinct, fun name hname => (h.closed name ?_).symm⟩
    rcases mem_flatMap_snd_namedTypes.1 hname with hlib | ⟨n, hn, -, hsuper⟩
    · exact List.mem_append_left _ hlib
    · exact List.mem_append_right _ (List.mem_flatMap.2 ⟨n, hn, List.mem_append_left _ hsuper⟩)
  rw [exists_load_iff_of_loadTypes hp]
  intro n hn
  refine ⟨⟨h.shaped n hn, ?_⟩, fun name hname => h.closed name ?_⟩
  · cases hkind : n.spec.kind.isType with
    | true => exact .inl rfl
    | false =>
        obtain ⟨d, -, hd, -⟩ := h.placed n hn hkind
        exact .inr (by simp [hd])
  · exact List.mem_append_right _ (List.mem_flatMap.2 ⟨n, hn, List.mem_append_right _ hname⟩)

/-- A snapshot can be loaded exactly when it is acceptable. -/
theorem loads_iff_acceptable (s : Snapshot) : (∃ p, s.load = .ok p) ↔ s.Acceptable :=
  ⟨fun ⟨_, h⟩ => acceptable_of_load h, Acceptable.exists_load⟩

end Snapshot

end ModContracts
