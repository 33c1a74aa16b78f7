import ModContracts.Diagnostic.Collection

/-!
# Clean collections

Whether a run fails depends on every single diagnostic: a collection is clean when each part of it
is, and a single diagnostic is clean when it is advice and advice is not denied.

* `Diagnostics.Clean` — a run with these diagnostics does not fail;
* `Diagnostics.verdict` — a diagnostic that is reported unless something is met;
* `Diagnostics.clean_append_iff`, `Diagnostics.clean_flatMap_iff`, `Diagnostics.clean_verdict_iff` —
  parts of collections.
-/

namespace ModContracts

namespace Diagnostics

variable {deny met : Bool} {ds es : Diagnostics}

/-- A run that reported these diagnostics does not fail. -/
def Clean (deny : Bool) (ds : Diagnostics) : Prop :=
  Status.ofDiagnostics ds deny = .clean

/-- Nothing when a requirement is met, and one diagnostic when it is not. -/
def verdict (met : Bool) (found : Diagnostic) : Diagnostics :=
  if met then [] else [found]

@[simp] theorem verdict_true (found : Diagnostic) : verdict true found = [] := rfl

@[simp] theorem verdict_false (found : Diagnostic) : verdict false found = [found] := rfl

/-- A collection is clean when each diagnostic is advice, and advice is not denied. -/
theorem clean_iff : Clean deny ds ↔ ∀ found ∈ ds, deny = false ∧ found.severity = .warning := by
  unfold Clean Status.ofDiagnostics
  cases deny with
  | true =>
      cases ds with
      | nil => simp
      | cons found rest =>
          refine ⟨fun h => by simp at h, fun hall => ?_⟩
          exact absurd (hall found List.mem_cons_self).1 (by simp)
  | false =>
      simp only [hasErrors, Bool.false_eq_true, if_false, true_and]
      have hseverity (found : Diagnostic) :
          found.severity = .warning ↔ found.severity ≠ .error := by
        cases found.severity <;> simp
      by_cases h : ds.any (·.severity = .error) = true
      · rw [if_pos h]
        obtain ⟨found, hfound, herror⟩ := List.any_eq_true.1 h
        refine ⟨fun h => by simp at h, fun hall => ?_⟩
        exact absurd (of_decide_eq_true herror) ((hseverity found).1 (hall found hfound))
      · rw [if_neg h]
        refine ⟨fun _ found hfound => (hseverity found).2 fun herror => h ?_, fun _ => rfl⟩
        exact List.any_eq_true.2 ⟨found, hfound, decide_eq_true herror⟩

theorem clean_nil : Clean deny [] :=
  clean_iff.2 (by simp)

theorem clean_append_iff : Clean deny (ds ++ es) ↔ Clean deny ds ∧ Clean deny es := by
  rw [clean_iff, clean_iff, clean_iff, List.forall_mem_append]

theorem clean_flatMap_iff {ι : Type} {xs : List ι} {f : ι → Diagnostics} :
    Clean deny (xs.flatMap f) ↔ ∀ x ∈ xs, Clean deny (f x) := by
  induction xs with
  | nil => simp [clean_nil]
  | cons x rest ih => rw [List.flatMap_cons, clean_append_iff, ih, List.forall_mem_cons]

/-- A rendered diagnostic is clean when its code is advice that is not denied. -/
theorem clean_render_iff {code : Code} {subject expected : String} {anchor : Anchor} :
    Clean deny [code.render subject expected anchor] ↔
      deny = false ∧ code.severity = .warning := by
  simp [clean_iff, Code.render]

theorem clean_verdict_iff {code : Code} {subject expected : String} {anchor : Anchor} :
    Clean deny (verdict met (code.render subject expected anchor)) ↔
      met = true ∨ (deny = false ∧ code.severity = .warning) := by
  unfold verdict
  cases met with
  | true => simp [clean_nil]
  | false => simp [clean_render_iff]

/-- A diagnostic of an error is only avoided. -/
theorem clean_error_iff {code : Code} {subject expected : String} {anchor : Anchor}
    (hcode : code.severity = .error) :
    Clean deny (verdict met (code.render subject expected anchor)) ↔ met = true := by
  simp [clean_verdict_iff, hcode]

/-- A diagnostic of advice is avoided, or not denied. -/
theorem clean_advice_iff {code : Code} {subject expected : String} {anchor : Anchor}
    (hcode : code.severity = .warning) :
    Clean deny (verdict met (code.render subject expected anchor)) ↔
      (deny = true → met = true) := by
  rw [clean_verdict_iff]
  cases deny <;> simp [hcode]

end Diagnostics

end ModContracts
