import ModContracts.Diagnostic.Collection
import ModContracts.Proofs.Text.Bytes
import Mathlib.Data.List.Permutation

/-!
# Sorted collections

A sorted collection holds the diagnostics it was sorted from, errors before warnings and messages in the
order of their bytes within each, and leaves alone the order of those that agree in both. There is only
one collection like that, so whatever else a sort does or does not do follows from it.

* `Diagnostic.key` — what two diagnostics are compared by; `Diagnostic.KeyLE` — the order of that;
* `Diagnostics.InOrder` — a collection is the stable arrangement of another one;
* `Diagnostics.inOrder_iff` — it is what sorting yields, and nothing else is;
* `Diagnostics.sorted_inOrder` — what this says of errors, warnings, and of a second sort.
-/

namespace ModContracts

/-- Lists in order that agree on the elements of every key are the same, if elements that come before
each other have one key. -/
theorem eq_of_pairwise_of_filter_eq {α β : Type} [DecidableEq β] {le : α → α → Prop}
    {key : α → β} (hantisymm : ∀ a b, le a b → le b a → key a = key b) {xs ys : List α}
    (hxs : xs.Pairwise le) (hys : ys.Pairwise le)
    (h : ∀ k, xs.filter (fun a => key a = k) = ys.filter (fun a => key a = k)) : xs = ys := by
  have hmem {us vs : List α}
      (heq : ∀ k, us.filter (fun a => key a = k) = vs.filter (fun a => key a = k)) {a : α}
      (ha : a ∈ us) : a ∈ vs := by
    have hfilter : a ∈ us.filter fun b => key b = key a := by simpa using ha
    rw [heq] at hfilter
    exact List.mem_of_mem_filter hfilter
  induction xs generalizing ys with
  | nil =>
      cases ys with
      | nil => rfl
      | cons y others => exact absurd (hmem (fun k => (h k).symm) List.mem_cons_self) List.not_mem_nil
  | cons x rest ih =>
      cases ys with
      | nil => exact absurd (hmem h List.mem_cons_self) List.not_mem_nil
      | cons y others =>
          rw [List.pairwise_cons] at hxs hys
          have hkey : key x = key y := by
            rcases List.mem_cons.1 (hmem h List.mem_cons_self) with rfl | hx
            · rfl
            · rcases List.mem_cons.1 (hmem (fun k => (h k).symm) List.mem_cons_self) with rfl | hy
              · rfl
              · exact hantisymm x y (hxs.1 y hy) (hys.1 x hx)
          -- the first elements of that key are the heads
          have hheads := h (key x)
          simp only [List.filter_cons, hkey, decide_true, if_true, List.cons.injEq] at hheads
          obtain rfl := hheads.1
          refine congrArg (x :: ·) (ih hxs.2 hys.2 fun k => ?_)
          have htails := h k
          simp only [List.filter_cons] at htails
          split at htails
          · exact (List.cons.inj htails).2
          · exact htails

/-! ## What is compared -/

namespace Diagnostic

variable {k l m : Severity × String} {a b : Diagnostic}

/-- What diagnostics are compared by. -/
def key (d : Diagnostic) : Severity × String :=
  (d.severity, d.message)

/-- Errors stand before warnings, and the messages of one severity by their bytes. -/
def KeyLE (k l : Severity × String) : Prop :=
  (k.1 = .warning → l.1 = .warning) ∧ (k.1 = l.1 → Text.utf8Bytes k.2 ≤ Text.utf8Bytes l.2)

theorem KeyLE.trans (hkl : KeyLE k l) (hlm : KeyLE l m) : KeyLE k m := by
  refine ⟨fun hk => hlm.1 (hkl.1 hk), fun hkm => ?_⟩
  -- what stands between two keys of one severity is of that severity
  have hsame : k.1 = l.1 := by
    cases hk : k.1 with
    | warning => exact (hkl.1 hk).symm
    | error =>
        cases hl : l.1 with
        | error => rfl
        | warning => exact (hkm.symm.trans hk).symm.trans (hlm.1 hl)
  exact List.le_trans (hkl.2 hsame) (hlm.2 (hsame.symm.trans hkm))

theorem KeyLE.antisymm (hkl : KeyLE k l) (hlk : KeyLE l k) : k = l := by
  have hseverity : k.1 = l.1 := by
    cases hk : k.1 with
    | warning => exact (hkl.1 hk).symm
    | error =>
        cases hl : l.1 with
        | error => rfl
        | warning => exact hk.symm.trans (hlk.1 hl)
  refine Prod.ext hseverity (String.le_antisymm ?_ ?_)
  · exact Text.utf8Bytes_le_iff.1 (hkl.2 hseverity)
  · exact Text.utf8Bytes_le_iff.1 (hlk.2 hseverity.symm)

theorem KeyLE.refl (k : Severity × String) : KeyLE k k :=
  ⟨id, fun _ => List.le_refl _⟩

theorem precedes_iff : Diagnostics.precedes a b = true ↔ KeyLE a.key b.key := by
  rw [Diagnostics.precedes, KeyLE, Text.utf8Bytes_le_iff]
  cases ha : a.severity <;> cases hb : b.severity <;> simp [key, Severity.rank, ha, hb]

end Diagnostic

namespace Diagnostics

open Diagnostic (KeyLE precedes_iff)

variable {a b c : Diagnostic} {ds es : Diagnostics}

/-- A collection is another one in order: the same diagnostics, with no error after a warning, with
messages of one severity by increasing bytes, and with those that agree in both as they were. -/
structure InOrder (ds es : Diagnostics) : Prop where
  perm : es.Perm ds
  errorsFirst : es.Pairwise fun a b => a.severity = .warning → b.severity = .warning
  byMessage : es.Pairwise fun a b => a.severity = b.severity →
    Text.utf8Bytes a.message ≤ Text.utf8Bytes b.message
  stable : ∀ key, es.filter (fun d => d.key = key) = ds.filter (fun d => d.key = key)

/-! ## Sorting -/

theorem precedes_trans (a b c : Diagnostic) (hab : precedes a b = true)
    (hbc : precedes b c = true) : precedes a c = true :=
  precedes_iff.2 ((precedes_iff.1 hab).trans (precedes_iff.1 hbc))

theorem precedes_total (a b : Diagnostic) : (precedes a b || precedes b a) = true := by
  rw [Bool.or_eq_true, precedes_iff, precedes_iff]
  cases ha : a.severity <;> cases hb : b.severity <;>
    simp [KeyLE, Diagnostic.key, ha, hb, Text.utf8Bytes_le_iff, String.le_total]

theorem perm_sorted (ds : Diagnostics) : (sorted ds).Perm ds :=
  List.mergeSort_perm ds precedes

theorem pairwise_precedes_sorted (ds : Diagnostics) :
    (sorted ds).Pairwise fun a b => precedes a b = true :=
  List.pairwise_mergeSort precedes_trans precedes_total ds

theorem pairwise_sorted (ds : Diagnostics) : (sorted ds).Pairwise fun a b => KeyLE a.key b.key := by
  simpa only [precedes_iff] using pairwise_precedes_sorted ds

/-- The diagnostics of one key keep their order: in order as they are, they are a part of the sorted
collection, which has no others of that key. -/
theorem filter_sorted (ds : Diagnostics) (key : Severity × String) :
    (sorted ds).filter (fun d => d.key = key) = ds.filter fun d => d.key = key := by
  have hordered : (ds.filter fun d => d.key = key).Pairwise fun a b => precedes a b = true := by
    refine List.pairwise_of_forall_mem_list fun a ha b hb => precedes_iff.2 ?_
    simp only [List.mem_filter, decide_eq_true_eq] at ha hb
    rw [ha.2, hb.2]
    exact KeyLE.refl key
  have hpart : (ds.filter fun d => d.key = key).Sublist (sorted ds) :=
    List.sublist_mergeSort precedes_trans precedes_total hordered List.filter_sublist
  have hfiltered := hpart.filter fun d => d.key = key
  rw [List.filter_filter] at hfiltered
  simp only [Bool.and_self] at hfiltered
  exact (hfiltered.eq_of_length ((perm_sorted ds).filter _).length_eq.symm).symm

/-- What sorting yields is in order, and nothing else is. -/
theorem inOrder_iff : InOrder ds es ↔ es = sorted ds := by
  constructor
  · intro h
    have hes : es.Pairwise fun a b => KeyLE a.key b.key :=
      List.pairwise_and_iff.2 ⟨h.errorsFirst, h.byMessage⟩
    have hantisymm (a b : Diagnostic) (hab : KeyLE a.key b.key) (hba : KeyLE b.key a.key) :
        a.key = b.key := hab.antisymm hba
    refine eq_of_pairwise_of_filter_eq hantisymm hes (pairwise_sorted ds) fun key => ?_
    rw [h.stable, filter_sorted]
  · rintro rfl
    obtain ⟨hseverity, hmessage⟩ := List.pairwise_and_iff.1 (pairwise_sorted ds)
    exact ⟨perm_sorted ds, hseverity, hmessage, filter_sorted ds⟩

theorem sorted_sorted (ds : Diagnostics) : sorted (sorted ds) = sorted ds :=
  List.mergeSort_of_pairwise (pairwise_precedes_sorted ds)

/-- Collections of the same diagnostics agree on what these are compared by once they are sorted. -/
theorem map_key_sorted_of_perm (h : es.Perm ds) :
    (sorted es).map Diagnostic.key = (sorted ds).map Diagnostic.key := by
  have hperm : (sorted es).Perm (sorted ds) :=
    (perm_sorted es).trans (h.trans (perm_sorted ds).symm)
  refine (hperm.map Diagnostic.key).eq_of_pairwise (fun _ _ _ _ => KeyLE.antisymm) ?_ ?_
  · exact List.pairwise_map.2 (pairwise_sorted es)
  · exact List.pairwise_map.2 (pairwise_sorted ds)

/-! ## Errors and warnings -/

/-- A collection in which no error follows a warning is its errors and then its warnings. -/
theorem eq_errors_append_warnings
    (h : ds.Pairwise fun a b => a.severity = .warning → b.severity = .warning) :
    ds = errors ds ++ warnings ds := by
  induction ds with
  | nil => rfl
  | cons a rest ih =>
      obtain ⟨hafter, hrest⟩ := List.pairwise_cons.1 h
      cases ha : a.severity with
      | error =>
          have hcons := congrArg (a :: ·) (ih hrest)
          simpa [errors, warnings, ofSeverity, ha] using hcons
      | warning =>
          have herrors : errors rest = [] :=
            List.filter_eq_nil_iff.2 fun b hb => by simp [hafter b hb ha]
          have hwarnings : warnings rest = rest :=
            List.filter_eq_self.2 fun b hb => by simp [hafter b hb ha]
          simp only [errors, warnings, ofSeverity] at herrors hwarnings
          simp [errors, warnings, ofSeverity, ha, herrors, hwarnings]

theorem hasErrors_eq_of_perm (h : es.Perm ds) : hasErrors es = hasErrors ds :=
  h.any_eq

theorem ofSeverity_perm (h : es.Perm ds) (severity : Severity) :
    (ofSeverity es severity).Perm (ofSeverity ds severity) :=
  h.filter _

theorem summary_eq_of_perm (h : es.Perm ds) : summary es = summary ds := by
  have hempty : es.isEmpty = ds.isEmpty := by
    rw [Bool.eq_iff_iff, List.isEmpty_iff, List.isEmpty_iff]
    exact ⟨fun hnil => List.nil_perm.1 (hnil ▸ h), fun hnil => List.perm_nil.1 (hnil ▸ h)⟩
  rw [summary, summary, hempty, errors, errors, warnings, warnings,
    (ofSeverity_perm h .error).length_eq, (ofSeverity_perm h .warning).length_eq]

/-- A sorted collection is the one collection in order with the diagnostics it was sorted from. It
is its errors followed by its warnings, and sorting it again changes nothing. Errors, warnings and
their number stay what they were, and the order in which the diagnostics were reported does not
change the sequence of their severities and messages. -/
theorem sorted_inOrder (ds : Diagnostics) :
    (∀ es, InOrder ds es ↔ es = sorted ds) ∧
      sorted ds = errors (sorted ds) ++ warnings (sorted ds) ∧
      sorted (sorted ds) = sorted ds ∧
      (errors (sorted ds)).Perm (errors ds) ∧
      (warnings (sorted ds)).Perm (warnings ds) ∧
      hasErrors (sorted ds) = hasErrors ds ∧
      summary (sorted ds) = summary ds ∧
      ∀ es, es.Perm ds → (sorted es).map Diagnostic.key = (sorted ds).map Diagnostic.key := by
  have hperm := perm_sorted ds
  have hinOrder : InOrder ds (sorted ds) := inOrder_iff.2 rfl
  refine ⟨fun es => inOrder_iff, eq_errors_append_warnings hinOrder.errorsFirst, sorted_sorted ds,
    ofSeverity_perm hperm .error, ofSeverity_perm hperm .warning, hasErrors_eq_of_perm hperm,
    summary_eq_of_perm hperm, fun es hes => map_key_sorted_of_perm hes⟩

/-- Two methods that are told the same stay as they were reported, after which the advice follows. -/
theorem exists_sortedReports :
    ∃ advice first second : Diagnostic, first ≠ second ∧
      sorted [advice, first, second] = [first, second, advice] ∧
      sorted [second, first, advice] = [second, first, advice] ∧
      (sorted [second, first, advice]).map Diagnostic.key =
        (sorted [advice, first, second]).map Diagnostic.key := by
  let advice := Code.notSame.render "Field b" "B" (.declaration 0)
  let first := Code.isStatic.render "Method z" "" (.declaration 1)
  let second := Code.isStatic.render "Method z" "" (.declaration 2)
  have hperm : [second, first, advice].Perm [advice, first, second] :=
    List.reverse_perm [advice, first, second]
  obtain ⟨-, -, -, -, -, -, -, hkeys⟩ := sorted_inOrder [advice, first, second]
  refine ⟨advice, first, second, by decide, ?_, ?_, hkeys _ hperm⟩
  · cbv
  · cbv

end Diagnostics

end ModContracts
