import Mathlib.Data.List.Forall2

/-!
# Steps that succeed

Loading and asking are written as steps that may fail. A sequence of steps yields a result exactly
when each step does, which is how the proofs take such sequences apart.

* `bind_eq_ok_iff`, `ok_bind`, `map_eq_ok_iff`, `pure_eq_ok_iff` — one step after another;
* `toOption_eq_some_iff` — the result of a step that is evaluated;
* `mapM_eq_ok_iff`, `exists_forall₂_iff`, `exists_mem_of_forall₂` — one step for each element of a
  list;
* `forall₂_and_of_forall`, `forall₂_comp` — what is known of each element, and one list after another.
-/

namespace ModContracts

variable {ε α β : Type}

theorem bind_eq_ok_iff {x : Except ε α} {f : α → Except ε β} {b : β} :
    (x >>= f) = .ok b ↔ ∃ a, x = .ok a ∧ f a = .ok b := by
  cases x <;> simp [bind, Except.bind]

theorem ok_bind (a : α) (f : α → Except ε β) : ((.ok a : Except ε α) >>= f) = f a :=
  rfl

theorem map_eq_ok_iff {x : Except ε α} {f : α → β} {b : β} :
    x.map f = .ok b ↔ ∃ a, x = .ok a ∧ f a = b := by
  cases x <;> simp [Except.map]

theorem pure_eq_ok_iff {a b : α} : (pure a : Except ε α) = .ok b ↔ a = b := by
  simp [pure, Except.pure]

theorem toOption_eq_some_iff {x : Except ε α} {a : α} : x.toOption = some a ↔ x = .ok a := by
  cases x <;> simp [Except.toOption]

theorem mapM_eq_ok_iff {f : α → Except ε β} {xs : List α} {ys : List β} :
    xs.mapM f = .ok ys ↔ List.Forall₂ (fun x y => f x = .ok y) xs ys := by
  induction xs generalizing ys with
  | nil => cases ys <;> simp [pure, Except.pure]
  | cons x rest ih =>
      rw [List.mapM_cons, bind_eq_ok_iff]
      constructor
      · intro h
        obtain ⟨y, hy, h⟩ := h
        obtain ⟨zs, hzs, h⟩ := bind_eq_ok_iff.1 h
        obtain rfl := pure_eq_ok_iff.1 h
        exact .cons hy (ih.1 hzs)
      · rintro (_ | ⟨hy, hrest⟩)
        exact ⟨_, hy, bind_eq_ok_iff.2 ⟨_, ih.2 hrest, rfl⟩⟩

/-- Something goes with each element of a list as soon as something goes with every one. -/
theorem exists_forall₂_iff {R : α → β → Prop} {xs : List α} :
    (∃ ys, List.Forall₂ R xs ys) ↔ ∀ x ∈ xs, ∃ y, R x y := by
  induction xs with
  | nil => exact ⟨fun _ => by simp, fun _ => ⟨[], .nil⟩⟩
  | cons x rest ih =>
      rw [List.forall_mem_cons, ← ih]
      constructor
      · intro h
        obtain ⟨_, _ | ⟨hx, hrest⟩⟩ := h
        exact ⟨⟨_, hx⟩, _, hrest⟩
      · intro h
        obtain ⟨⟨y, hy⟩, ys, hys⟩ := h
        exact ⟨y :: ys, .cons hy hys⟩

/-- What holds of every element of the second list holds along with what relates the lists. -/
theorem forall₂_and_of_forall {R : α → β → Prop} {P : β → Prop} {xs : List α} {ys : List β}
    (h : List.Forall₂ R xs ys) (hP : ∀ y ∈ ys, P y) :
    List.Forall₂ (fun x y => R x y ∧ P y) xs ys := by
  induction h with
  | nil => exact .nil
  | cons hfirst _ ih =>
      rw [List.forall_mem_cons] at hP
      exact .cons ⟨hfirst, hP.1⟩ (ih hP.2)

theorem forall₂_comp {γ : Type} {R : α → β → Prop} {S : β → γ → Prop} {xs : List α} {ys : List β}
    {zs : List γ} (h : List.Forall₂ R xs ys) (h' : List.Forall₂ S ys zs) :
    List.Forall₂ (fun x z => ∃ y, R x y ∧ S y z) xs zs := by
  induction h generalizing zs with
  | nil => cases h' with | nil => exact .nil
  | cons hfirst _ ih =>
      cases h' with
      | cons hfirst' hrest' => exact .cons ⟨_, hfirst, hfirst'⟩ (ih hrest')

/-- Each result goes with an element of the list. -/
theorem exists_mem_of_forall₂ {R : α → β → Prop} {xs : List α} {ys : List β}
    (h : List.Forall₂ R xs ys) {y : β} (hy : y ∈ ys) : ∃ x ∈ xs, R x y := by
  induction h with
  | nil => simp at hy
  | cons hfirst _ ih =>
      rcases List.mem_cons.1 hy with rfl | hy
      · exact ⟨_, List.mem_cons_self, hfirst⟩
      · obtain ⟨x, hx, hR⟩ := ih hy
        exact ⟨x, List.mem_cons_of_mem _ hx, hR⟩

end ModContracts
