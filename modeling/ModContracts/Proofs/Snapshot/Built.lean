import ModContracts.Proofs.Program.Built
import ModContracts.Proofs.Snapshot.Acceptable

/-!
# Loading takes elementary steps

A snapshot is loaded by the same elementary steps that edits take, so what holds of all programs
that can be built holds of loaded programs.

* `Program.Built.loadAllSupertypes` — the types; `Snapshot.Node.built_of_load` — one node;
* `Snapshot.built_of_load` — loaded programs can be built.
-/

namespace ModContracts

namespace Program.Built

variable {p q : Program}

/-! ## Types -/

theorem registerAll (h : p.Built) (names : List String) : (p.registerAll names).Built := by
  induction names generalizing p with
  | nil => exact h
  | cons name rest ih => exact ih (h.register name)

theorem loadAllSupertypes (h : p.Built) {named : List (String × List String)}
    (hq : p.loadAllSupertypes named = .ok q) : q.Built :=
  loadAllSupertypes_induction (fun _ type super _ _ hr => hr.addSupertype type super) (.refl p) h hq

/-! ## Declarations and what is on them -/

theorem enter (h : p.Built) (decl : Declaration) (hmembers : decl.members = [])
    (hattachments : decl.attachments = [])
    (howner : ∀ owner, decl.enclosing? = some owner → owner ≤ p.declarations.length) :
    (p.enter decl).Built := by
  unfold Program.enter
  cases hintroduced : decl.introduced? with
  | none => exact h.declare decl hmembers hattachments howner
  | some type =>
      obtain ⟨-, htype⟩ := Declaration.introduced?_eq_some_iff.1 hintroduced
      exact h.declareIntroducing decl hmembers hattachments howner htype

theorem place (h : p.Built) (d : DeclId) (location? : Option Location) :
    (p.place d location?).Built := by
  cases location? with
  | none => exact h
  | some location => exact h.setLocation d location

theorem affixAll (h : p.Built) {attached : List Attachment}
    (howner : ∀ a ∈ attached, a.owner < p.declarations.length) : (p.affixAll attached).Built := by
  induction attached generalizing p with
  | nil => exact h
  | cons a rest ih =>
      obtain ⟨ha, hrest⟩ := List.forall_mem_cons.1 howner
      refine ih (h.affix a ha) fun b hb => ?_
      rw [declarations_affix, List.length_modify]
      exact hrest b hb

end Program.Built

namespace Snapshot

variable {p q : Program}

theorem Node.built_of_load {n : Node} (hp : p.Indexed) (hbuilt : p.Built)
    (hparent : ∀ owner, n.parent? = some owner → owner < p.declarations.length)
    (h : n.load p = .ok q) : q.Built := by
  obtain ⟨-, head, attached, hhead, hattached, rfl⟩ := (load_eq_ok_iff hp).1 h
  have henter : (p.enter head).Built := by
    refine hbuilt.enter head hhead.members hhead.attachments fun owner howner => ?_
    exact Nat.le_of_lt (hparent owner (hhead.enclosing.symm.trans howner))
  refine (henter.place p.declarations.length n.spec.location?).affixAll fun a ha => ?_
  rw [AttachmentSpec.owner_of_means hattached a ha]
  simp

theorem built_of_loadNodes {ns : List Node} (hp : p.Indexed) (hbuilt : p.Built)
    (hparent : ∀ (i : Nat) (n : Node) (d : Nat), ns[i]? = some n → n.parent? = some d →
      d < p.declarations.length + i)
    (h : loadNodes p ns = .ok q) : q.Built := by
  induction ns generalizing p with
  | nil =>
      obtain rfl : p = q := by simpa using h
      exact hbuilt
  | cons n rest ih =>
      rw [loadNodes_cons] at h
      obtain ⟨r, hr, h⟩ := bind_eq_ok_iff.1 h
      obtain ⟨hnames, hlength⟩ := Node.load_frame hp hr
      have hnext : r.Built := Node.built_of_load hp hbuilt (fun d hd => hparent 0 n d rfl hd) hr
      refine ih (hnames.indexed hp) hnext (fun i m d hm hd => ?_) h
      have hlt := hparent (i + 1) m d hm hd
      omega

/-- Loaded programs can be built. -/
theorem built_of_load {s : Snapshot} (h : s.load = .ok p) : p.Built := by
  obtain ⟨q, hq, -⟩ := bind_eq_ok_iff.1 h
  obtain ⟨hindexed, -, -⟩ := loadTypes_ok hq
  rw [load_eq_loadNodes hq] at h
  have hbuilt : q.Built := by
    rw [loadTypes_eq (nodup_of_loadTypes hq)] at hq
    exact (Program.Built.initial.registerAll _).loadAllSupertypes hq
  refine built_of_loadNodes hindexed hbuilt (fun i n d hn hd => ?_) h
  exact Nat.lt_of_lt_of_le (parent_lt hn hd) (Nat.le_add_left _ _)

end Snapshot

end ModContracts
