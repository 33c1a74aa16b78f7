import ModContracts.Proofs.Snapshot.Moved
import ModContracts.Proofs.Snapshot.Renamed

/-!
# Programs of rearranged snapshots

When the declarations at the top of a snapshot change places, the program that it describes has the same
declarations under other ids, with the same attachments on each of them. Types are numbered otherwise,
too, and correspond by their names.

* `Snapshot.MovedLoad` — two loaded snapshots whose nodes are moved;
* `Snapshot.MovedLoad.rel_declaration`, `Snapshot.MovedLoad.attachments` — the declarations and what is
  attached to them;
* `Snapshot.MovedLoad.introducing?`, `Snapshot.MovedLoad.carriersOf_perm` — the indexes;
* `Snapshot.MovedLoad.matched` — the programs match.
-/

namespace ModContracts

namespace Snapshot

/-- Loaded snapshots that declare the same types, the nodes of which are moved. -/
structure MovedLoad (σ : Equiv.Perm Nat) (s s' : Snapshot) (p p' : Program) : Prop where
  types : s.TypesRenamed id s'
  nodes : Moved σ s.nodes s'.nodes
  load : s.load = .ok p
  load' : s'.load = .ok p'

namespace MovedLoad

variable {σ : Equiv.Perm Nat} {s s' : Snapshot} {p p' : Program} {t t' : TypeId} {d : DeclId}
  (h : MovedLoad σ s s' p p')
include h

theorem typesRenamed : p.TypesRenamed id p' :=
  h.types.load typeRenaming_id h.load h.load'

/-! ## Declarations -/

/-- A node becomes matching declarations, wherever it is moved. -/
theorem declaration_of_node {n : Node} {decl decl' : Declaration}
    (hdecl : n.Becomes p.typeId? s.nodes d decl)
    (hdecl' : (n.move σ).Becomes p'.typeId? s'.nodes (σ d) decl') :
    Declaration.Matched id (Program.Counterpart id p p') (fun d d' => σ d = d') decl decl' := by
  have hspec : n.spec.Renamed id .default (n.move σ).spec := n.spec.renamed_id .default
  obtain ⟨hname, htype, hparameters, hreturns⟩ :=
    hdecl.toDescribes.signature_alike h.typesRenamed.indexed h.typesRenamed.indexed'
      typeRenaming_id hspec hdecl'.toDescribes
  exact {
    kind := by rw [hdecl.kind, hdecl'.kind, Node.move]
    name := hname
    type := htype
    modifiers := by rw [hdecl.modifiers, hdecl'.modifiers, Node.move]
    enclosing := by
      rw [hdecl.enclosing, hdecl'.enclosing, Node.move]
      cases n.parent? with
      | none => exact .none
      | some c => exact .some rfl
    members := by
      rw [hdecl.members, hdecl'.members, h.nodes.childrenIn, List.forall₂_map_right_iff,
        List.forall₂_same]
      exact fun _ _ => rfl
    parameters := hparameters
    returns := hreturns }

/-- A declaration and the moved one match, or there is neither. -/
theorem rel_declaration (d : DeclId) :
    Option.Rel (Declaration.Matched id (Program.Counterpart id p p') fun d d' => σ d = d')
      p.declarations[d]? p'.declarations[σ d]? := by
  obtain ⟨-, hholds⟩ := holds_of_load h.load
  obtain ⟨-, hholds'⟩ := holds_of_load h.load'
  cases hdecl : p.declarations[d]? with
  | none =>
      cases hdecl' : p'.declarations[σ d]? with
      | none => exact .none
      | some decl' =>
          obtain ⟨n', hn', -⟩ := hholds'.node_of_declaration hdecl'
          rw [h.nodes.node] at hn'
          obtain ⟨n, hn, -⟩ := Option.map_eq_some_iff.1 hn'
          obtain ⟨decl, hsome, -⟩ := hholds.declaration d n hn
          simp [hdecl] at hsome
  | some decl =>
      obtain ⟨n, hn, hbecomes⟩ := hholds.node_of_declaration hdecl
      obtain ⟨decl', hdecl', hbecomes'⟩ := hholds'.declaration (σ d) _ (h.nodes.getElem? hn)
      rw [hdecl']
      exact .some (h.declaration_of_node hbecomes hbecomes')

/-- What is not there is not moved, so that its id can be told from none of the programs. -/
theorem declaration (d : DeclId) :
    ResultsAlike id (Declaration.Matched id (Program.Counterpart id p p') fun d d' => σ d = d')
      (p.declaration d) (p'.declaration (σ d)) := by
  unfold Program.declaration
  rcases rel_cases (h.rel_declaration d) with
    ⟨hnone, hnone'⟩ | ⟨decl, decl', hsome, hsome', hdecl⟩
  · have hd : s.nodes.length ≤ d := by
      rw [← (holds_of_load h.load).2.length_declarations]
      exact List.getElem?_eq_none_iff.1 hnone
    rw [hnone, hnone', h.nodes.beyond d hd]
    exact .error (.refl _)
  · rw [hsome, hsome']
    exact .ok hdecl

/-! ## Attachments -/

/-- On a declaration and on the moved one the same is attached, in the same order. -/
theorem attachments {decl decl' : Declaration} (hdecl : p.declarations[d]? = some decl)
    (hdecl' : p'.declarations[σ d]? = some decl') :
    List.Forall₂ (fun a a' => ∃ attached attached', p.attachments[a]? = some attached ∧
        p'.attachments[a']? = some attached' ∧
        Program.Counterpart id p p' attached.type attached'.type ∧
        ∀ name, attached'.str? name = attached.str? name)
      decl.attachments decl'.attachments := by
  obtain ⟨hindexed, hholds⟩ := holds_of_load h.load
  obtain ⟨hindexed', hholds'⟩ := holds_of_load h.load'
  obtain ⟨n, hn, hbecomes⟩ := hholds.node_of_declaration hdecl
  obtain ⟨n', hn', hbecomes'⟩ := hholds'.node_of_declaration hdecl'
  obtain rfl : n.move σ = n' := Option.some.inj ((h.nodes.getElem? hn).symm.trans hn')
  have hsame : List.Forall₂ Eq n.spec.attachments (n.move σ).spec.attachments :=
    List.forall₂_same.2 fun _ _ => rfl
  have hat := attachments_at hholds.attachments hn
  have hat' := attachments_at hholds'.attachments hn'
  rw [hbecomes.attachments, hbecomes'.attachments]
  refine forall₂_of_forall₂ hsame hat.flip hat'.flip ?_
  rintro spec _ a a' rfl ⟨attached, hattached, hmeans⟩ ⟨attached', hattached', hmeans'⟩
  refine ⟨attached, attached', hattached, hattached',
    .of_typeId? hindexed hindexed' hmeans.type hmeans'.type, fun name => ?_⟩
  rw [hmeans.str?_eq, hmeans'.str?_eq]

theorem attachmentsOf (d : DeclId) :
    ResultsAlike id
      (List.Forall₂ fun a a' => ∃ attached attached', p.attachment a = .ok attached ∧
        p'.attachment a' = .ok attached' ∧
        Program.Counterpart id p p' attached.type attached'.type ∧
        ∀ name, attached'.str? name = attached.str? name)
      (p.attachmentsOf d) (p'.attachmentsOf (σ d)) := by
  refine (h.declaration d).and_eq.map fun decl decl' hdecl => ?_
  obtain ⟨-, hdecl, hdecl'⟩ := hdecl
  have hattachments := h.attachments (Program.declaration_eq_ok_iff.1 hdecl)
    (Program.declaration_eq_ok_iff.1 hdecl')
  refine hattachments.imp fun a a' ha => ?_
  obtain ⟨attached, attached', hattached, hattached', hsame⟩ := ha
  exact ⟨attached, attached', Program.attachment_eq hattached, Program.attachment_eq hattached',
    hsame⟩

/-! ## Indexes -/

/-- A type is introduced by the moved declaration. -/
theorem introducing? (ht : Program.Counterpart id p p' t t') :
    Option.Rel (fun d d' => σ d = d') (p.introducing? t) (p'.introducing? t') := by
  have hp := wellFormed_of_load h.load
  have hp' := wellFormed_of_load h.load'
  have hiff (d : DeclId) : p'.introducing? t' = some (σ d) ↔ p.introducing? t = some d := by
    rw [hp.introducing, hp'.introducing]
    rcases rel_cases (h.rel_declaration d) with
      ⟨hnone, hnone'⟩ | ⟨decl, decl', hsome, hsome', hdecl⟩
    · simp [hnone, hnone']
    · simp [hsome, hsome', ht.introduced?_iff hp.indexed hp'.indexed Function.injective_id hdecl]
  cases hd : p.introducing? t with
  | none =>
      cases hd' : p'.introducing? t' with
      | none => exact .none
      | some d' =>
          rw [← σ.apply_symm_apply d', hiff] at hd'
          simp [hd] at hd'
  | some d =>
      rw [(hiff d).2 hd]
      exact .some rfl

theorem wears_eq (ht : Program.Counterpart id p p' t t') (d : DeclId) :
    p'.wears t' (σ d) = p.wears t d := by
  unfold Program.wears
  rcases rel_cases (h.rel_declaration d) with
    ⟨hnone, hnone'⟩ | ⟨decl, decl', hsome, hsome', -⟩
  · rw [hnone, hnone']
    rfl
  · rw [hsome, hsome', Option.any_some, Option.any_some]
    have hattachments := h.attachments hsome hsome'
    generalize decl.attachments = as at hattachments
    generalize decl'.attachments = as' at hattachments
    induction hattachments with
    | nil => rfl
    | cons hfirst _ ih =>
        obtain ⟨attached, attached', hattached, hattached', htype, -⟩ := hfirst
        have hsame := h.typesRenamed.counterpart_eq_iff Function.injective_id htype ht
        simp only [List.any_cons, ih, Program.isOfType, hattached, hattached', Option.any_some, hsame]

/-- An annotation type is carried by the moved declarations, listed in the order of their new ids. -/
theorem carriersOf_perm (ht : Program.Counterpart id p p' t t') :
    ((p.carriersOf t).map σ).Perm (p'.carriersOf t') := by
  have hmem (p : Program) (hp : p.WellFormed) (t : TypeId) (d : DeclId) :
      d ∈ p.carriersOf t ↔ p.wears t d = true := by
    rw [hp.carriersOf, List.mem_filter, List.mem_range]
    exact and_iff_right_of_imp Program.lt_of_wears
  have hnodup (p : Program) (hp : p.WellFormed) (t : TypeId) : (p.carriersOf t).Nodup := by
    rw [hp.carriersOf]
    exact List.nodup_range.filter _
  have hp := wellFormed_of_load h.load
  have hp' := wellFormed_of_load h.load'
  refine (List.perm_ext_iff_of_nodup ((hnodup p hp t).map σ.injective) (hnodup p' hp' t')).2 ?_
  intro d'
  rw [hmem p' hp', ← σ.apply_symm_apply d', h.wears_eq ht, List.mem_map_of_injective σ.injective,
    hmem p hp]

/-! ## Programs -/

/-- Programs of rearranged snapshots match, every declaration with the moved one. -/
theorem matched : p.Matched id (Program.Counterpart id p p') (fun d d' => σ d = d') p' := by
  refine h.typesRenamed.matched typeRenaming_id ?_ fun ht => h.introducing? ht
  rintro d _ rfl
  exact h.declaration d

end MovedLoad

end Snapshot

end ModContracts
