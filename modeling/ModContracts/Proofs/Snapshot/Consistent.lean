import ModContracts.Proofs.Program.WellFormed
import ModContracts.Proofs.Snapshot.Contents

/-!
# Loaded programs are well-formed

Whatever snapshot a program was loaded from, its tables and indexes fit together: the shapes and
places of the nodes and the distinct names of the types are what well-formedness asks for.

* `Snapshot.Holds.node_of_declaration` — every declaration of a loaded program is that of a node;
* `Snapshot.Holds.wears_eq` — a declaration carries what is written on its node;
* `Snapshot.wellFormed_of_load` — loaded programs are well-formed;
* `Snapshot.carriersOf_of_load` — which declarations a loaded program lists for an annotation type.
-/

namespace ModContracts

namespace Snapshot

variable {s : Snapshot} {ns : List Node} {p : Program} {n : Node} {d : Nat} {decl : Declaration}

/-! ## Declarations and their nodes -/

namespace Holds

/-- Every declaration is that of a node. -/
theorem node_of_declaration (h : Holds ns p) (hdecl : p.declarations[d]? = some decl) :
    ∃ n, ns[d]? = some n ∧ n.Becomes p.typeId? ns d decl := by
  have hlt : d < ns.length := by
    rw [← h.length_declarations]
    exact (List.getElem?_eq_some_iff.1 hdecl).1
  have hn : ns[d]? = some ns[d] := List.getElem?_eq_getElem hlt
  obtain ⟨decl', hdecl', hbecomes⟩ := h.declaration d ns[d] hn
  obtain rfl : decl' = decl := Option.some.inj (hdecl'.symm.trans hdecl)
  exact ⟨ns[d], hn, hbecomes⟩

/-- A declaration lists those that stand in it. -/
theorem mem_members_iff (h : Holds ns p) (hdecl : p.declarations[d]? = some decl) {e : DeclId} :
    e ∈ decl.members ↔
      ∃ member, p.declarations[e]? = some member ∧ member.enclosing? = some d := by
  obtain ⟨n, -, hbecomes⟩ := h.node_of_declaration hdecl
  rw [hbecomes.members, mem_map_childrenIn_iff]
  constructor
  · intro h'
    obtain ⟨m, hm, hparent⟩ := h'
    obtain ⟨member, hmember, hbecomes'⟩ := h.declaration e m hm
    exact ⟨member, hmember, hbecomes'.enclosing.trans hparent⟩
  · intro h'
    obtain ⟨member, hmember, henclosing⟩ := h'
    obtain ⟨m, hm, hbecomes'⟩ := h.node_of_declaration hmember
    exact ⟨m, hm, hbecomes'.enclosing.symm.trans henclosing⟩

/-- A declaration carries the annotation types that are written on its node. -/
theorem wears_eq (h : Holds ns p) (hn : ns[d]? = some n) (t : TypeId) :
    p.wears t d = n.wears p.typeId? t := by
  obtain ⟨decl, hdecl, hbecomes⟩ := h.declaration d n hn
  rw [Program.wears, hdecl, Option.any_some, hbecomes.attachments, Node.wears]
  have hat := attachments_at h.attachments hn
  generalize List.range' _ _ = ids at hat ⊢
  generalize n.spec.attachments = specs at hat
  induction hat with
  | nil => rfl
  | cons hfirst _ ih =>
      obtain ⟨attached, hattached, hmeans⟩ := hfirst
      rw [List.any_cons, List.any_cons, ih, Program.isOfType, hattached, Option.any_some,
        hmeans.type]
      simp

/-- The carriers of an annotation type are the declarations that carry it. -/
theorem carriersOf_eq (h : Holds ns p) (t : TypeId) :
    p.carriersOf t = (List.range p.declarations.length).filter (p.wears t) := by
  have hrange : List.range ns.length = ns.zipIdx.map Prod.snd := by simp [List.range_eq_range']
  rw [h.carriersOf, carriersIn, h.length_declarations, hrange, List.filter_map,
    ← List.filterMap_eq_map, List.filterMap_filter]
  refine List.filterMap_congr fun pair hmem => ?_
  obtain ⟨m, i⟩ := pair
  rw [Function.comp, h.wears_eq (List.mem_zipIdx_iff_getElem?.1 hmem)]
  rfl

end Holds

/-! ## Well-formedness -/

theorem eq_of_nodup_map_filter {α β : Type} {xs : List α} {P : α → Bool} {f : α → β}
    (h : ((xs.filter P).map f).Nodup) {i j : Nat} {a b : α} (hi : xs[i]? = some a)
    (hj : xs[j]? = some b) (ha : P a = true) (hb : P b = true) (hf : f a = f b) : i = j := by
  have hpairwise : xs.Pairwise fun x y => P x = true → P y = true → f x ≠ f y := by
    rw [List.Nodup, List.pairwise_map] at h
    exact List.pairwise_filter.1 h
  obtain ⟨hilt, rfl⟩ := List.getElem?_eq_some_iff.1 hi
  obtain ⟨hjlt, rfl⟩ := List.getElem?_eq_some_iff.1 hj
  rw [List.pairwise_iff_getElem] at hpairwise
  rcases Nat.lt_trichotomy i j with hlt | heq | hgt
  · exact absurd hf (hpairwise i j hilt hjlt hlt ha hb)
  · exact heq
  · exact absurd hf.symm (hpairwise j i hjlt hilt hgt hb ha)

/-- Two nodes that declare a type of the same name are the same node. -/
theorem Acceptable.unique (h : s.Acceptable) {i j : Nat} {m : Node} (hi : s.nodes[i]? = some n)
    (hj : s.nodes[j]? = some m) (hn : n.spec.kind.isType = true) (hm : m.spec.kind.isType = true)
    (hname : n.spec.name = m.spec.name) : i = j :=
  eq_of_nodup_map_filter (List.nodup_append.1 h.distinct).2.1 hi hj hn hm hname

/-- A type is introduced by the node that declares it. -/
theorem introducing?_eq_some_iff (h : s.load = .ok p) (t : TypeId) (d : DeclId) :
    p.introducing? t = some d ↔
      ∃ decl, p.declarations[d]? = some decl ∧ decl.introduced? = some t := by
  obtain ⟨hindexed, hholds⟩ := holds_of_load h
  constructor
  · intro hintroducing
    obtain ⟨n, hn, hkind, hname⟩ := hholds.declares t d hintroducing
    obtain ⟨decl, hdecl, hbecomes⟩ := hholds.declaration d n hn
    exact ⟨decl, hdecl, hbecomes.introduced?_eq_some_iff.2 ⟨hkind, hname⟩⟩
  · intro h'
    obtain ⟨decl, hdecl, hintroduced⟩ := h'
    obtain ⟨n, hn, hbecomes⟩ := hholds.node_of_declaration hdecl
    obtain ⟨hkind, hname⟩ := hbecomes.introduced?_eq_some_iff.1 hintroduced
    obtain ⟨e, he⟩ := hholds.declared n (List.mem_of_getElem? hn) hkind t hname
    obtain ⟨m, hm, hkind', hname'⟩ := hholds.declares t e he
    -- names determine types, so both nodes declare a type of one name
    have hsame : m.spec.name = n.spec.name := by
      have heq := (hindexed.typeName_of_typeId? hname').symm.trans
        (hindexed.typeName_of_typeId? hname)
      simpa using heq
    rwa [← (acceptable_of_load h).unique hm hn hkind' hkind hsame]

/-- What is no method and no constructor has a type, and writes the name of it. -/
theorem Node.Describes.exists_type {ids : TypeIds} (h : n.Describes ids decl)
    (hkind : n.spec.kind.isExecutable = false) :
    ∃ t name, ids name = some t ∧ decl.type? = some t := by
  cases hk : n.spec.kind with
  | method => simp [hk, Kind.isExecutable] at hkind
  | constructor => simp [hk, Kind.isExecutable] at hkind
  | field =>
      obtain ⟨-, t, ht, htype⟩ := h.of_field hk
      exact ⟨t, _, ht, htype⟩
  | _ =>
      obtain ⟨-, t, ht, htype⟩ := h.of_isType (by rw [hk]; rfl)
      exact ⟨t, _, ht, htype⟩

/-- A loaded program is well-formed. -/
theorem wellFormed_of_load (h : s.load = .ok p) : p.WellFormed := by
  obtain ⟨hindexed, hholds⟩ := holds_of_load h
  have hacceptable := acceptable_of_load h
  refine
    { indexed := hindexed
      sorted := fun {d decl} hdecl => ?_
      members := fun hdecl _ => hholds.mem_members_iff hdecl
      attachments := fun {d decl} hdecl a ha => ?_
      enclosing := fun {d owner decl} hdecl howner => ?_
      enclosed := fun {d decl} hdecl hkind => ?_
      typed := fun {d decl} hdecl hkind => ?_
      introducing := introducing?_eq_some_iff h
      carriersOf := hholds.carriersOf_eq }
  all_goals obtain ⟨n, hn, hbecomes⟩ := hholds.node_of_declaration hdecl
  · rw [hbecomes.members]
    exact pairwise_childrenIn 0 s.nodes d
  · rw [hbecomes.attachments] at ha
    obtain ⟨i, hi⟩ := List.mem_iff_getElem?.1 ha
    obtain ⟨_, -, attached, hattached, hmeans⟩ :=
      exists_getElem?_of_forall₂ (attachments_at hholds.attachments hn) hi
    exact ⟨attached, hattached, hmeans.owner⟩
  · rw [hbecomes.enclosing] at howner
    obtain ⟨e, m, hparent, hm, hkind⟩ := exists_type_around hacceptable.shaped
      (List.mem_of_getElem? hn) (by rw [howner]; rfl)
    obtain rfl : e = owner := Option.some.inj (hparent.symm.trans howner)
    obtain ⟨around, haround, hbecomes'⟩ := hholds.declaration e m hm
    exact ⟨around, haround, by rw [hbecomes'.kind, hkind]⟩
  · rw [hbecomes.kind] at hkind
    obtain ⟨e, m, hparent, -, -⟩ := hacceptable.placed n (List.mem_of_getElem? hn) hkind
    exact ⟨e, hbecomes.enclosing.trans hparent⟩
  · rw [hbecomes.kind] at hkind
    obtain ⟨t, name, ht, htype⟩ := hbecomes.exists_type hkind
    exact ⟨t, name, htype, hindexed.typeName_of_typeId? ht⟩

/-! ## Carriers -/

/-- A loaded program lists for an annotation type the declarations that carry it, by increasing id
and each once: all annotations of a declaration are attached before those of its members. -/
theorem carriersOf_of_load (h : s.load = .ok p) (type : TypeId) :
    (p.carriersOf type).Pairwise (· < ·) ∧
      ∀ d, d ∈ p.carriersOf type ↔ p.hasAttachment d type = .ok true := by
  have hp := wellFormed_of_load h
  refine ⟨?_, fun d => hp.mem_carriersOf_iff⟩
  rw [hp.carriersOf]
  exact List.pairwise_lt_range.filter _

/-- A class, a class in it and a method in that one carry an annotation. On the outer class it is
repeated, with another one in between. -/
def repeatedExample : Snapshot where
  types := [{ name := "a.Mark" }, { name := "a.Other" }]
  declarations := [{
    kind := .classType, name := "b.Outer"
    attachments := [{ type := "a.Mark" }, { type := "a.Other" }, { type := "a.Mark" }]
    members := [{
      kind := .classType, name := "b.Outer.Inner", attachments := [{ type := "a.Mark" }]
      members := [{ kind := .method, name := "run", attachments := [{ type := "a.Mark" }] }] }] }]

theorem exists_carriersOf_repeatedExample :
    ∃ p, repeatedExample.load = .ok p ∧ p.carriersOf 11 = [0, 1, 2] ∧
      ∀ d, d ∈ p.carriersOf 11 ↔ p.hasAttachment d 11 = .ok true := by
  have hload : (repeatedExample.load.toOption.any fun p => p.carriersOf 11 = [0, 1, 2]) = true := by
    decide +kernel
  obtain ⟨p, hp, hcarriers⟩ := (Option.any_eq_true _ _).1 hload
  have hp := toOption_eq_some_iff.1 hp
  exact ⟨p, hp, of_decide_eq_true hcarriers, (carriersOf_of_load hp 11).2⟩

end Snapshot

end ModContracts
