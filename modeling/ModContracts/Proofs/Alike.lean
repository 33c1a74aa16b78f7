import ModContracts.Proofs.Results

/-!
# Answers that are alike

Two questions that are asked side by side, of two programs, are answered alike: with related answers, or
with faults that agree. Answers that are texts may name types, and agree as long as no name is changed
from the one program to the other.

* `AgreeUnder` — what is equal unless a name was changed;
* `ResultsAlike` — answers that are alike, with the laws of asking one thing after another;
* `rel_cases`, `rel_self`, `rel_getElem?_of_forall₂` — related options and related lists.
-/

namespace ModContracts

/-! ## Texts -/

/-- What is equal if no name is changed. -/
def AgreeUnder (ρ : String → String) {α : Type} (x y : α) : Prop :=
  ρ = id → x = y

namespace AgreeUnder

variable {ρ : String → String} {α β γ : Type} {x y : α} {z w : β}

theorem of_eq (h : x = y) : AgreeUnder ρ x y :=
  fun _ => h

theorem refl (x : α) : AgreeUnder ρ x x :=
  fun _ => rfl

theorem map (f : α → β) (h : AgreeUnder ρ x y) : AgreeUnder ρ (f x) (f y) :=
  fun hρ => congrArg f (h hρ)

theorem map₂ (f : α → β → γ) (h : AgreeUnder ρ x y) (h' : AgreeUnder ρ z w) :
    AgreeUnder ρ (f x z) (f y w) :=
  fun hρ => congrArg₂ f (h hρ) (h' hρ)

/-- Lists whose elements agree one by one. -/
theorem of_forall₂ {xs ys : List α} (h : List.Forall₂ (AgreeUnder ρ) xs ys) : AgreeUnder ρ xs ys := by
  intro hρ
  induction h with
  | nil => rfl
  | cons hfirst _ ih => rw [hfirst hρ, ih]

/-- A name and the renamed name. -/
theorem rename (name : String) : AgreeUnder ρ name (ρ name) := by
  rintro rfl
  rfl

end AgreeUnder

/-! ## Answers -/

/-- Two questions have related answers, or both have none, for reasons that agree. -/
inductive ResultsAlike (ρ : String → String) {ε α β : Type} (R : α → β → Prop) :
    Except ε α → Except ε β → Prop where
  | ok {a : α} {b : β} (h : R a b) : ResultsAlike ρ R (.ok a) (.ok b)
  | error {e f : ε} (h : AgreeUnder ρ e f) : ResultsAlike ρ R (.error e) (.error f)

namespace ResultsAlike

variable {ρ : String → String} {ε α β γ δ : Type} {R : α → β → Prop} {S : γ → δ → Prop}
  {a : Except ε α} {b : Except ε β}

/-- The same question has the same answer. -/
theorem refl {R : α → α → Prop} (hR : ∀ x, a = .ok x → R x x) : ResultsAlike ρ R a a := by
  cases a with
  | ok x => exact .ok (hR x rfl)
  | error fault => exact .error (.refl fault)

theorem bind {f : α → Except ε γ} {g : β → Except ε δ} (h : ResultsAlike ρ R a b)
    (hfg : ∀ x y, R x y → ResultsAlike ρ S (f x) (g y)) : ResultsAlike ρ S (a >>= f) (b >>= g) := by
  cases h with
  | ok h => exact hfg _ _ h
  | error h => exact .error h

theorem map {f : α → γ} {g : β → δ} (h : ResultsAlike ρ R a b) (hfg : ∀ x y, R x y → S (f x) (g y)) :
    ResultsAlike ρ S (a.map f) (b.map g) := by
  cases h with
  | ok h => exact .ok (hfg _ _ h)
  | error h => exact .error h

theorem mono {T : α → β → Prop} (h : ResultsAlike ρ R a b) (hRT : ∀ x y, R x y → T x y) :
    ResultsAlike ρ T a b := by
  cases h with
  | ok h => exact .ok (hRT _ _ h)
  | error h => exact .error h

theorem mapM {f : α → Except ε γ} {g : β → Except ε δ} {xs : List α} {ys : List β}
    (h : List.Forall₂ R xs ys) (hfg : ∀ x y, R x y → ResultsAlike ρ S (f x) (g y)) :
    ResultsAlike ρ (List.Forall₂ S) (xs.mapM f) (ys.mapM g) := by
  induction h with
  | nil => exact .ok .nil
  | cons hfirst _ ih =>
      rw [List.mapM_cons, List.mapM_cons]
      refine (hfg _ _ hfirst).bind fun x y hxy => ih.bind fun xs ys hrest => ?_
      exact .ok (.cons hxy hrest)

theorem exists_ok_iff (h : ResultsAlike ρ R a b) : (∃ y, b = .ok y) ↔ ∃ x, a = .ok x := by
  cases h <;> simp

/-- What is known of answers that are there. -/
theorem and_eq (h : ResultsAlike ρ R a b) :
    ResultsAlike ρ (fun x y => R x y ∧ a = .ok x ∧ b = .ok y) a b := by
  cases h with
  | ok h => exact .ok ⟨h, rfl, rfl⟩
  | error h => exact .error h

/-- Answers that agree are the same if no name is changed. -/
theorem eq_of_id {a b : Except ε α} (h : ResultsAlike id (AgreeUnder id) a b) : a = b := by
  cases h with
  | ok h => rw [h rfl]
  | error h => rw [h rfl]

end ResultsAlike

/-! ## Options and lists -/

/-- Related options are both nothing, or hold related things. -/
theorem rel_cases {α β : Type} {R : α → β → Prop} {x : Option α} {y : Option β}
    (h : Option.Rel R x y) : x = none ∧ y = none ∨ ∃ a b, x = some a ∧ y = some b ∧ R a b := by
  cases h with
  | none => exact .inl ⟨rfl, rfl⟩
  | some h => exact .inr ⟨_, _, rfl, rfl, h⟩

/-- An option is related to itself if what it holds is. -/
theorem rel_self {α : Type} {R : α → α → Prop} {x : Option α} (h : ∀ a, x = some a → R a a) :
    Option.Rel R x x := by
  cases x with
  | none => exact .none
  | some a => exact .some (h a rfl)

theorem rel_getElem?_of_forall₂ {α β : Type} {R : α → β → Prop} {xs : List α} {ys : List β}
    (h : List.Forall₂ R xs ys) (i : Nat) : Option.Rel R xs[i]? ys[i]? := by
  induction h generalizing i with
  | nil => exact .none
  | cons hfirst _ ih =>
      cases i with
      | zero => exact .some hfirst
      | succ j => exact ih j

end ModContracts
