import ModContracts.Framework
import ModContracts.Proofs.Diagnostic

/-!
# What checks yield and settle

A check that never looks at earlier reports has one outcome and adds the same reports wherever it
runs. All checks of the rules are of this kind; the laws below say what their parts yield.

* `Check.Yields` — the outcome of a check and the reports it adds;
* `Check.reported` — what a check reports on its own;
* `Check.Yields.bind`, `Check.Yields.bind_error` — one check after another;
* `Check.Yields.forM`, `Check.Yields.forM_error` — one check for each element of a list, all of them
  or up to the first fault;
* `Check.yields_report`, `Check.yields_ask` — the two things a check does;
* `Check.Settles` — a check that does not fault and is clean exactly when a fact holds.
-/

namespace ModContracts

namespace Check

variable {α β : Type} {c : Check α} {f : α → Check β} {a : α} {fault : CheckFault}
  {outcome : Except CheckFault α} {ds es : Diagnostics}

/-- A check has an outcome and adds reports, whatever was reported before it. -/
def Yields (c : Check α) (outcome : Except CheckFault α) (ds : Diagnostics) : Prop :=
  ∀ reports, c.after reports = (outcome, reports ++ ds)

/-- What a check reports when nothing was reported before it. -/
def reported (c : Check α) : Diagnostics :=
  (c.after []).2

theorem Yields.reported_eq (h : c.Yields outcome ds) : c.reported = ds := by
  rw [reported, h []]
  rfl

/-! ## Steps -/

theorem yields_pure (a : α) : (pure a : Check α).Yields (.ok a) [] := by
  intro reports
  rw [List.append_nil]
  rfl

theorem yields_throw (fault : CheckFault) : (throw fault : Check α).Yields (.error fault) [] := by
  intro reports
  rw [List.append_nil]
  rfl

theorem yields_report (code : Code) (subject expected : String) (anchor : Anchor) :
    (report code subject expected anchor).Yields (.ok ())
      [code.render subject expected anchor] := by
  intro reports
  rfl

/-- A query that has an answer is answered without a report. -/
theorem yields_ask {answer : Answer α} (h : answer = .ok a) : (ask answer).Yields (.ok a) [] := by
  rw [h]
  exact yields_pure a

/-! ## Sequences -/

/-- The second check runs after the reports of the first. -/
theorem after_bind (reports : Diagnostics) :
    (c >>= f).after reports =
      match c.after reports with
      | (.ok a, added) => (f a).after added
      | (.error fault, added) => (.error fault, added) := by
  change (match c.after reports with
    | (result, added) => ExceptT.bindCont f result added) = _
  cases c.after reports with
  | mk result added => cases result <;> rfl

theorem Yields.bind {outcome : Except CheckFault β} (hc : c.Yields (.ok a) ds)
    (hf : (f a).Yields outcome es) : (c >>= f).Yields outcome (ds ++ es) := by
  intro reports
  rw [after_bind, hc reports, ← List.append_assoc]
  exact hf (reports ++ ds)

theorem Yields.bind_error (hc : c.Yields (.error fault) ds) :
    (c >>= f).Yields (.error fault) ds := by
  intro reports
  rw [after_bind, hc reports]

/-- A check that reports nothing is replaced by its result. -/
theorem Yields.bind_silent {outcome : Except CheckFault β} (hc : c.Yields (.ok a) [])
    (hf : (f a).Yields outcome ds) : (c >>= f).Yields outcome ds :=
  hc.bind hf

/-- A query that has an answer is replaced by it. -/
theorem Yields.ask_bind {answer : Answer α} {outcome : Except CheckFault β} (h : answer = .ok a)
    (hf : (f a).Yields outcome ds) : (ask answer >>= f).Yields outcome ds :=
  (yields_ask h).bind_silent hf

section Lists

variable {ι : Type} {xs : List ι} {check : ι → Check Unit} {reports : ι → Diagnostics}

/-- Checks for all elements of a list add their reports in the order of the list. -/
theorem Yields.forM (h : ∀ x ∈ xs, (check x).Yields (.ok ()) (reports x)) :
    (xs.forM check).Yields (.ok ()) (xs.flatMap reports) := by
  induction xs with
  | nil => exact yields_pure ()
  | cons x rest ih =>
      rw [List.flatMap_cons]
      have hrest := ih fun y hy => h y (List.mem_cons_of_mem x hy)
      exact (h x List.mem_cons_self).bind hrest

/-- The first check that faults stops the others; what was reported until then stays. -/
theorem Yields.forM_error {x : ι} {rest : List ι}
    (h : ∀ y ∈ xs, (check y).Yields (.ok ()) (reports y))
    (hx : (check x).Yields (.error fault) ds) :
    ((xs ++ x :: rest).forM check).Yields (.error fault) (xs.flatMap reports ++ ds) := by
  induction xs with
  | nil => exact hx.bind_error
  | cons y others ih =>
      rw [List.flatMap_cons, List.append_assoc]
      have hothers := ih fun z hz => h z (List.mem_cons_of_mem y hz)
      exact (h y List.mem_cons_self).bind hothers

end Lists

/-! ## Checks that settle facts -/

section Settles

open Diagnostics

/-- A check does not fault, and its reports are clean exactly when a fact holds. The fact may be
another one when advice is denied. -/
def Settles (c : Check Unit) (fact : Bool → Prop) : Prop :=
  ∃ ds, c.Yields (.ok ()) ds ∧ ∀ deny, Clean deny ds ↔ fact deny

variable {c : Check Unit} {f : Unit → Check Unit} {fact fact' : Bool → Prop}

theorem Settles.congr (h : c.Settles fact) (hfact : ∀ deny, fact deny ↔ fact' deny) :
    c.Settles fact' := by
  obtain ⟨ds, hyields, hclean⟩ := h
  exact ⟨ds, hyields, fun deny => (hclean deny).trans (hfact deny)⟩

theorem settles_pure (h : ∀ deny, fact deny) : (pure () : Check Unit).Settles fact :=
  ⟨[], yields_pure (), fun deny => ⟨fun _ => h deny, fun _ => clean_nil⟩⟩

theorem Settles.bind (hc : c.Settles fact) (hf : (f ()).Settles fact') :
    (c >>= f).Settles fun deny => fact deny ∧ fact' deny := by
  obtain ⟨ds, hyields, hclean⟩ := hc
  obtain ⟨es, hyields', hclean'⟩ := hf
  refine ⟨ds ++ es, hyields.bind hyields', fun deny => ?_⟩
  rw [clean_append_iff, hclean, hclean']

theorem Settles.ask_bind {α : Type} {answer : Answer α} {a : α} {f : α → Check Unit}
    (h : answer = .ok a) (hf : (f a).Settles fact) : (ask answer >>= f).Settles fact := by
  obtain ⟨ds, hyields, hclean⟩ := hf
  exact ⟨ds, hyields.ask_bind h, hclean⟩

/-- Checks for all elements of a list settle whether all facts hold. -/
theorem Settles.forM {ι : Type} {xs : List ι} {check : ι → Check Unit} {fact : ι → Bool → Prop}
    (h : ∀ x ∈ xs, (check x).Settles (fact x)) :
    (xs.forM check).Settles fun deny => ∀ x ∈ xs, fact x deny := by
  induction xs with
  | nil => exact settles_pure (by simp)
  | cons x rest ih =>
      have hrest := ih fun y hy => h y (List.mem_cons_of_mem x hy)
      refine ((h x List.mem_cons_self).bind hrest).congr fun deny => ?_
      rw [List.forall_mem_cons]

/-- A check that reports an error unless something is met settles it. -/
theorem settles_error {met : Bool} {code : Code} {subject expected : String} {anchor : Anchor}
    {fact : Prop} (hcode : code.severity = .error) (hfact : met = true ↔ fact)
    (h : c.Yields (.ok ()) (verdict met (code.render subject expected anchor))) :
    c.Settles fun _ => fact :=
  ⟨_, h, fun _ => (clean_error_iff hcode).trans hfact⟩

/-- A check that reports advice unless something is met settles it where advice is denied. -/
theorem settles_advice {met : Bool} {code : Code} {subject expected : String} {anchor : Anchor}
    {fact : Prop} (hcode : code.severity = .warning) (hfact : met = true ↔ fact)
    (h : c.Yields (.ok ()) (verdict met (code.render subject expected anchor))) :
    c.Settles fun deny => deny = true → fact :=
  ⟨_, h, fun _ => (clean_advice_iff hcode).trans (imp_congr_right fun _ => hfact)⟩

end Settles

end Check

end ModContracts
