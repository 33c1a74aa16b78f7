import ModContracts.Proofs.Program.Built
import ModContracts.Proofs.Program.WellFormed
import Mathlib.Data.List.Destutter

/-!
# The carriers of an annotation type

A program lists the declarations that carry an annotation type as attachments come in. A declaration
is listed with every attachment of the type, unless it is the one listed last, so it is listed once
for each run of attachments that belong to it.

* `Program.sites`, `Program.ownersOf`, `Program.ownedBy` — where the attachments of a program are;
* `Program.Attached` — the tables and the index of attachments agree, `Program.Built.attached` — as
  they do in every program that can be built;
* `Program.Attached.mem_carriersOf_iff` — the declarations that are listed are those that carry the
  type;
* `Program.Attached.nodup_carriersOf_iff` — when each of them is listed once.
-/

namespace ModContracts

/-! ## Lists without immediate repetition -/

section Destutter

variable {α : Type} [DecidableEq α] {x : α} {xs : List α}

theorem getLast?_destutter' (a : α) (xs : List α) :
    (xs.destutter' (· ≠ ·) a).getLast? = (a :: xs).getLast? := by
  induction xs generalizing a with
  | nil => rfl
  | cons b rest ih =>
      by_cases h : a ≠ b
      · rw [List.destutter'_cons_pos _ h, List.getLast?_cons, ih, List.getLast?_cons_cons,
          List.getLast?_cons]
        rfl
      · obtain rfl : a = b := not_not.1 h
        rw [List.destutter'_cons_neg _ h, ih, List.getLast?_cons_cons]

/-- What is left of a list ends as the list does. -/
theorem getLast?_destutter (xs : List α) : (xs.destutter (· ≠ ·)).getLast? = xs.getLast? := by
  cases xs with
  | nil => rfl
  | cons a rest => exact getLast?_destutter' a rest

theorem destutter'_concat (a : α) (xs : List α) (x : α) :
    (xs ++ [x]).destutter' (· ≠ ·) a =
      if (a :: xs).getLast? = some x then xs.destutter' (· ≠ ·) a
      else xs.destutter' (· ≠ ·) a ++ [x] := by
  induction xs generalizing a with
  | nil => by_cases h : a = x <;> simp [h]
  | cons b rest ih =>
      rw [List.cons_append, List.getLast?_cons_cons]
      by_cases h : a ≠ b
      · rw [List.destutter'_cons_pos _ h, List.destutter'_cons_pos _ h, ih]
        split <;> rfl
      · obtain rfl : a = b := not_not.1 h
        rw [List.destutter'_cons_neg _ h, List.destutter'_cons_neg _ h, ih]

/-- An element at the end is left unless it repeats the one before it. -/
theorem destutter_concat (xs : List α) (x : α) :
    (xs ++ [x]).destutter (· ≠ ·) =
      if xs.getLast? = some x then xs.destutter (· ≠ ·) else xs.destutter (· ≠ ·) ++ [x] := by
  cases xs with
  | nil => rfl
  | cons a rest => exact destutter'_concat a rest x

theorem mem_destutter_iff : x ∈ xs.destutter (· ≠ ·) ↔ x ∈ xs := by
  induction xs using List.reverseRecOn with
  | nil => rfl
  | append_singleton rest y ih =>
      rw [destutter_concat, List.mem_append, ← ih, List.mem_singleton]
      split
      case isTrue hlast =>
          have hy : y ∈ rest.destutter (· ≠ ·) :=
            List.mem_of_getLast? ((getLast?_destutter rest).trans hlast)
          exact ⟨.inl, fun h => h.elim id fun heq => heq ▸ hy⟩
      case isFalse => rw [List.mem_append, List.mem_singleton]

/-- What repeats nothing immediately is still found in what is left. -/
theorem sublist_destutter' {a : α} {ys : List α} (hchain : ys.IsChain (· ≠ ·))
    (h : ys.Sublist (a :: xs)) : ys.Sublist (xs.destutter' (· ≠ ·) a) := by
  induction xs generalizing a ys with
  | nil => exact h
  | cons b rest ih =>
      by_cases hab : a ≠ b
      · rw [List.destutter'_cons_pos _ hab]
        rcases List.sublist_cons_iff.1 h with hlater | ⟨zs, rfl, hlater⟩
        · exact (ih hchain hlater).cons a
        · exact (ih hchain.tail hlater).cons_cons a
      · obtain rfl : a = b := not_not.1 hab
        rw [List.destutter'_cons_neg _ hab]
        rcases List.sublist_cons_iff.1 h with hlater | ⟨zs, rfl, hlater⟩
        · exact ih hchain hlater
        · rcases List.sublist_cons_iff.1 hlater with hlast | ⟨ws, rfl, -⟩
          · exact ih hchain (hlast.cons_cons a)
          · exact absurd rfl (List.isChain_cons_cons.1 hchain).1

/-- What is left of a list repeats an element exactly where the list comes back to it after another
one. -/
theorem nodup_destutter_iff :
    (xs.destutter (· ≠ ·)).Nodup ↔ ∀ x y, x ≠ y → ¬ [x, y, x].Sublist xs := by
  rw [List.nodup_iff_sublist]
  constructor
  · intro h x y hxy hsublist
    have hleft : [x, y, x].Sublist (xs.destutter (· ≠ ·)) := by
      cases xs with
      | nil => exact hsublist
      | cons a rest => exact sublist_destutter' (by simp [hxy, hxy.symm]) hsublist
    exact h x (((List.Sublist.refl [x]).cons y |>.cons_cons x).trans hleft)
  · intro h x hsublist
    obtain ⟨front, back, hsplit, hfront, hback⟩ := List.cons_sublist_iff.1 hsublist
    obtain ⟨before, between, rfl⟩ := List.append_of_mem hfront
    rw [List.append_assoc, List.cons_append] at hsplit
    have hmem : x ∈ between ++ back := List.mem_append_right _ (List.singleton_sublist.1 hback)
    -- what follows the first of the two is another element
    cases hrest : between ++ back with
    | nil => simp [hrest] at hmem
    | cons y after =>
        have hchain := List.isChain_destutter (· ≠ ·) xs
        rw [hrest] at hsplit hmem
        rw [hsplit, List.isChain_append] at hchain
        have hxy : x ≠ y := (List.isChain_cons_cons.1 hchain.2.1).1
        have hlater : x ∈ after := (List.mem_cons.1 hmem).resolve_left hxy
        have hfound : [x, y, x].Sublist (x :: y :: after) :=
          ((List.singleton_sublist.2 hlater).cons_cons y).cons_cons x
        refine h x y hxy (hfound.trans ?_)
        have hall : (x :: y :: after).Sublist (xs.destutter (· ≠ ·)) :=
          hsplit ▸ List.sublist_append_right _ _
        exact hall.trans (List.destutter_sublist _ _)

end Destutter

/-! ## Where attachments are -/

theorem Keyed.map_fst_put_subset {κ α : Type} [DecidableEq κ] (xs : Keyed κ α) (key : κ)
    (value : α) : (Keyed.put xs key value).map Prod.fst ⊆ xs.map Prod.fst ++ [key] := by
  induction xs with
  | nil => simp [Keyed.put]
  | cons p rest ih =>
      rw [Keyed.put]
      split
      · simp
      · rw [List.map_cons, List.map_cons, List.cons_append]
        exact List.cons_subset_cons _ ih

namespace Program

variable {p q : Program} {d : DeclId} {type : TypeId} {a : AttachmentId}

/-- The declaration and the annotation type of each attachment. -/
def sites (p : Program) : List (DeclId × TypeId) :=
  p.attachments.map fun attached => (attached.owner, attached.type)

/-- The declarations that the attachments of an annotation type belong to, in the order of the
attachments. -/
def ownersOf (p : Program) (type : TypeId) : List DeclId :=
  (p.sites.filter (·.2 = type)).map Prod.fst

/-- The attachments that belong to a declaration. -/
def ownedBy (p : Program) (d : DeclId) : List AttachmentId :=
  p.sites.zipIdx.filterMap fun (site, a) => if site.1 = d then some a else none

theorem mem_ownersOf_iff :
    d ∈ p.ownersOf type ↔
      ∃ attached ∈ p.attachments, attached.owner = d ∧ attached.type = type := by
  simp only [ownersOf, sites, List.mem_map, List.mem_filter, decide_eq_true_eq]
  constructor
  · intro h
    obtain ⟨_, ⟨⟨attached, hmem, rfl⟩, htype⟩, rfl⟩ := h
    exact ⟨attached, hmem, rfl, htype⟩
  · intro h
    obtain ⟨attached, hmem, rfl, htype⟩ := h
    exact ⟨_, ⟨⟨attached, hmem, rfl⟩, htype⟩, rfl⟩

theorem mem_ownedBy_iff :
    a ∈ p.ownedBy d ↔
      ∃ attached : Attachment, p.attachments[a]? = some attached ∧ attached.owner = d := by
  simp only [ownedBy, sites, List.mem_filterMap, Prod.exists, List.mem_zipIdx_iff_getElem?,
    List.getElem?_map, Option.map_eq_some_iff, Prod.mk.injEq, Option.ite_none_right_eq_some,
    Option.some.injEq]
  constructor
  · intro h
    obtain ⟨_, _, _, ⟨attached, ha, rfl, rfl⟩, rfl, rfl⟩ := h
    exact ⟨attached, ha, rfl⟩
  · intro h
    obtain ⟨attached, ha, rfl⟩ := h
    exact ⟨_, _, _, ⟨attached, ha, rfl, rfl⟩, rfl, rfl⟩

/-! ## Agreement -/

/-- The tables and the index of attachments agree. -/
structure Attached (p : Program) : Prop where
  /-- An attachment belongs to a declaration that is there. -/
  owner : ∀ attached ∈ p.attachments, attached.owner < p.declarations.length
  /-- A declaration lists what belongs to it. -/
  listed : ∀ {d : DeclId} {decl : Declaration}, p.declarations[d]? = some decl →
    decl.attachments = p.ownedBy d
  /-- A declaration is listed for each run of attachments of a type that belong to it. -/
  carriersOf : ∀ type, p.carriersOf type = (p.ownersOf type).destutter (· ≠ ·)
  /-- The annotation types of the index are those of attachments. -/
  keys : ∀ type ∈ p.carriers.map Prod.fst, ∃ attached ∈ p.attachments, attached.type = type

theorem attached_initial : Program.initial.Attached where
  owner := by simp [initial]
  listed := by simp [initial]
  carriersOf type := rfl
  keys := by simp [initial]

/-! ### Steps that attach nothing -/

/-- A program has the same attachments as another one, on the same declarations. Declarations that
it has beyond those have nothing on them. -/
structure SameAttached (p q : Program) : Prop where
  sites_eq : q.sites = p.sites
  carriers_eq : q.carriers = p.carriers
  length_le : p.declarations.length ≤ q.declarations.length
  declarations : ∀ {d : DeclId} {decl : Declaration}, q.declarations[d]? = some decl →
    (∃ before, p.declarations[d]? = some before ∧ decl.attachments = before.attachments) ∨
      (p.declarations.length ≤ d ∧ decl.attachments = [])

theorem SameAttached.of_eq (hattachments : q.attachments = p.attachments)
    (hcarriers : q.carriers = p.carriers) (hdeclarations : q.declarations = p.declarations) :
    p.SameAttached q where
  sites_eq := by rw [sites, hattachments, sites]
  carriers_eq := hcarriers
  length_le := by rw [hdeclarations]
  declarations {d decl} h := .inl ⟨decl, hdeclarations ▸ h, rfl⟩

theorem sameAttached_declare {decl : Declaration} (hattachments : decl.attachments = []) :
    p.SameAttached (p.declare decl).1 where
  sites_eq := rfl
  carriers_eq := rfl
  length_le := by
    unfold declare
    cases decl.enclosing? <;> simp
  declarations {d around} h := by
    rw [getElem?_declare, Option.map_eq_some_iff] at h
    obtain ⟨before, hbefore, rfl⟩ := h
    -- a declaration around the new one gains a member, which is no attachment
    have hsame : (if decl.enclosing? = some d then
        { before with members := before.members ++ [p.declarations.length] }
        else before).attachments = before.attachments := by
      split <;> rfl
    rw [getElem?_concat_eq_ite] at hbefore
    rw [hsame]
    split at hbefore
    case isTrue hd =>
        obtain rfl := Option.some.inj hbefore
        exact .inr ⟨Nat.le_of_eq hd.symm, hattachments⟩
    case isFalse => exact .inl ⟨before, hbefore, rfl⟩

theorem sameAttached_setLocation (d : DeclId) (location : Location) :
    p.SameAttached (p.setLocation d location) where
  sites_eq := rfl
  carriers_eq := rfl
  length_le := by simp [setLocation]
  declarations {e decl} h := by
    rw [setLocation, List.getElem?_modify, Option.map_eq_map, Option.map_eq_some_iff] at h
    obtain ⟨before, hbefore, rfl⟩ := h
    refine .inl ⟨before, hbefore, ?_⟩
    split <;> rfl

theorem sameAttached_setAttachmentLocation (a : AttachmentId) (location? : Option Location)
    (valueLocations : List (String × Location)) :
    p.SameAttached (p.setAttachmentLocation a location? valueLocations) where
  sites_eq := by
    refine List.ext_getElem? fun i => ?_
    simp only [sites, setAttachmentLocation, List.getElem?_map, List.getElem?_modify]
    cases p.attachments[i]? with
    | none => rfl
    | some attached =>
        simp only [Option.map_eq_map, Option.map_some]
        split <;> rfl
  carriers_eq := rfl
  length_le := Nat.le_refl _
  declarations {d decl} h := .inl ⟨decl, h, rfl⟩

theorem Attached.congr (h : p.Attached) (hsame : p.SameAttached q) : q.Attached where
  owner attached hattached := by
    have hsite : (attached.owner, attached.type) ∈ p.sites :=
      hsame.sites_eq ▸ List.mem_map_of_mem hattached
    obtain ⟨before, hbefore, heq⟩ := List.mem_map.1 hsite
    have hlt := h.owner before hbefore
    rw [(Prod.mk.inj heq).1] at hlt
    exact Nat.lt_of_lt_of_le hlt hsame.length_le
  listed {d decl} hdecl := by
    rw [ownedBy, hsame.sites_eq, ← ownedBy]
    rcases hsame.declarations hdecl with ⟨before, hbefore, heq⟩ | ⟨hd, hnone⟩
    · rw [heq, h.listed hbefore]
    · -- nothing belongs to a declaration that was not there
      rw [hnone, eq_comm, List.eq_nil_iff_forall_not_mem]
      intro a ha
      obtain ⟨attached, hattached, rfl⟩ := mem_ownedBy_iff.1 ha
      exact absurd (h.owner attached (List.mem_of_getElem? hattached)) (Nat.not_lt.2 hd)
  carriersOf type := by
    rw [ownersOf, hsame.sites_eq, ← ownersOf, ← h.carriersOf, Program.carriersOf,
      hsame.carriers_eq, Program.carriersOf]
  keys type htype := by
    rw [hsame.carriers_eq] at htype
    obtain ⟨before, hbefore, rfl⟩ := h.keys type htype
    have hsite : (before.owner, before.type) ∈ q.sites :=
      hsame.sites_eq ▸ List.mem_map_of_mem hbefore
    obtain ⟨attached, hattached, heq⟩ := List.mem_map.1 hsite
    exact ⟨attached, hattached, (Prod.mk.inj heq).2⟩

/-! ### One attachment more -/

section Affix

variable (p) (attached : Attachment)

theorem sites_affix : (p.affix attached).sites = p.sites ++ [(attached.owner, attached.type)] := by
  rw [sites, attachments_affix, List.map_append]
  rfl

theorem ownersOf_affix (type : TypeId) :
    (p.affix attached).ownersOf type =
      p.ownersOf type ++ if attached.type = type then [attached.owner] else [] := by
  rw [ownersOf, sites_affix, List.filter_append, List.map_append, ← ownersOf]
  by_cases h : attached.type = type <;> simp [h]

theorem ownedBy_affix (d : DeclId) :
    (p.affix attached).ownedBy d =
      p.ownedBy d ++ if attached.owner = d then [p.attachments.length] else [] := by
  rw [ownedBy, sites_affix, List.zipIdx_append, List.filterMap_append, ← ownedBy]
  by_cases h : attached.owner = d <;> simp [h, sites]

theorem map_fst_carriers_affix_subset :
    (p.affix attached).carriers.map Prod.fst ⊆ p.carriers.map Prod.fst ++ [attached.type] := by
  unfold affix listCarrier
  dsimp only
  split
  · exact List.subset_append_left _ _
  · exact Keyed.map_fst_put_subset _ _ _

end Affix

theorem Attached.affix (h : p.Attached) (attached : Attachment)
    (howner : attached.owner < p.declarations.length) : (p.affix attached).Attached where
  owner other hother := by
    rw [declarations_affix, List.length_modify]
    rw [attachments_affix, List.mem_append, List.mem_singleton] at hother
    rcases hother with hother | rfl
    · exact h.owner other hother
    · exact howner
  listed {d decl} hdecl := by
    rw [declarations_affix, List.getElem?_modify, Option.map_eq_map, Option.map_eq_some_iff]
      at hdecl
    obtain ⟨before, hbefore, rfl⟩ := hdecl
    rw [ownedBy_affix, ← h.listed hbefore]
    split <;> simp
  carriersOf type := by
    rw [carriersOf_affix, ownersOf_affix, h.carriersOf, getLast?_destutter]
    by_cases htype : attached.type = type
    · rw [if_pos htype, destutter_concat]
      by_cases hlast : (p.ownersOf type).getLast? = some attached.owner <;> simp [htype, hlast]
    · simp [htype]
  keys type htype := by
    rw [attachments_affix]
    rcases List.mem_append.1 (map_fst_carriers_affix_subset p attached htype) with hold | hnew
    · obtain ⟨other, hother, heq⟩ := h.keys type hold
      exact ⟨other, List.mem_append_left _ hother, heq⟩
    · exact ⟨attached, by simp, (List.mem_singleton.1 hnew).symm⟩

/-! ### Programs that can be built -/

/-- In a program that can be built, the tables and the index of attachments agree. -/
theorem Built.attached (h : p.Built) : p.Attached := by
  induction h with
  | initial => exact attached_initial
  | @register p _ name ih =>
      refine ih.congr (.of_eq ?_ ?_ (declarations_register p name .declared)) <;>
        · unfold Program.register
          split <;> rfl
  | addSupertype _ _ _ ih => exact ih.congr (.of_eq rfl rfl rfl)
  | declare _ _ _ hattachments _ ih => exact ih.congr (sameAttached_declare hattachments)
  | introduce _ _ _ ih => exact ih.congr (.of_eq rfl rfl rfl)
  | setLocation _ d location ih => exact ih.congr (sameAttached_setLocation d location)
  | affix _ attached howner ih => exact ih.affix attached howner
  | setAttachmentLocation _ a location? valueLocations ih =>
      exact ih.congr (sameAttached_setAttachmentLocation a location? valueLocations)

/-! ## Who is listed, and how often -/

namespace Attached

variable (h : p.Attached)
include h

/-- What an attachment belongs to is there. -/
theorem exists_owner {attached : Attachment} (hmem : attached ∈ p.attachments) :
    ∃ decl, p.declarations[attached.owner]? = some decl :=
  ⟨_, List.getElem?_eq_getElem (h.owner attached hmem)⟩

/-- What is listed on a declaration is there. -/
theorem exists_attachment (decl : Declaration) (hdecl : p.declarations[d]? = some decl) :
    ∀ a ∈ decl.attachments, ∃ attached, p.attachments[a]? = some attached := by
  intro a ha
  rw [h.listed hdecl] at ha
  exact (mem_ownedBy_iff.1 ha).imp fun _ hattached => hattached.1

theorem wears_iff : p.wears type d = true ↔ d ∈ p.ownersOf type := by
  rw [mem_ownersOf_iff, wears, Option.any_eq_true]
  simp only [List.any_eq_true, isOfType, Option.any_eq_true, decide_eq_true_eq]
  constructor
  · intro h'
    obtain ⟨decl, hdecl, a, ha, attached, hattached, htype⟩ := h'
    rw [h.listed hdecl, mem_ownedBy_iff, hattached] at ha
    obtain ⟨_, ⟨⟩, howner⟩ := ha
    exact ⟨attached, List.mem_of_getElem? hattached, howner, htype⟩
  · intro h'
    obtain ⟨attached, hmem, rfl, htype⟩ := h'
    obtain ⟨a, hattached⟩ := List.mem_iff_getElem?.1 hmem
    obtain ⟨decl, hdecl⟩ := h.exists_owner hmem
    refine ⟨decl, hdecl, a, ?_, attached, hattached, htype⟩
    rw [h.listed hdecl, mem_ownedBy_iff]
    exact ⟨attached, hattached, rfl⟩

theorem mem_carriersOf_iff_wears : d ∈ p.carriersOf type ↔ p.wears type d = true := by
  rw [h.carriersOf, mem_destutter_iff, h.wears_iff]

/-- The declarations that are listed for an annotation type are those that carry it. -/
theorem mem_carriersOf_iff : d ∈ p.carriersOf type ↔ p.hasAttachment d type = .ok true := by
  rw [h.mem_carriersOf_iff_wears, hasAttachment_eq_true_iff h.exists_attachment]

/-- Each carrier is listed once exactly when no attachment of the type went to another declaration
between two that went to the same one. -/
theorem nodup_carriersOf_iff :
    (p.carriersOf type).Nodup ↔ ∀ d e, d ≠ e → ¬ [d, e, d].Sublist (p.ownersOf type) := by
  rw [h.carriersOf, nodup_destutter_iff]

end Attached

end Program

end ModContracts
