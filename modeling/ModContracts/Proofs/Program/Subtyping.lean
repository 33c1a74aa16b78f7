import ModContracts.Program.Subtyping
import Mathlib.Algebra.BigOperators.Group.Finset.Basic
import Mathlib.Data.Finset.Card
import Mathlib.Data.Finset.Range
import Mathlib.Logic.Relation

/-!
# The walk up the supertypes

A walk visits types one by one, whatever cycles there are and whichever of them the program knows. It
ends, because every step takes one type from those that come next, and supertypes are put there only
for a type that is visited for the first time. When it ends, everything above a visited type has been
visited.

* `Program.Extends` — one type is a declared supertype of the other;
* `Program.left` — what a walk has left, which gets less with every step;
* `Program.Frontier` — what holds between the steps of a walk; `Program.Frontier.step` keeps it;
* `Program.walk_of_bound_le` — a walk ends within the bound, and no further step changes its answer;
* `Program.reaches_iff` — a walk decides whether a chain of supertypes leads from one type to another.
-/

namespace ModContracts

namespace Program

variable {p : Program} {t u source target : TypeId} {steps more : Nat} {w next : Walk} {answer : Bool}

/-- A type has another one among its declared supertypes. -/
def Extends (p : Program) (t u : TypeId) : Prop :=
  u ∈ p.supertypesOf t

/-- A type that the program does not know has no supertypes. -/
theorem supertypesOf_eq_nil (h : p.types.length ≤ t) : p.supertypesOf t = [] := by
  rw [supertypesOf, List.getElem?_eq_none h]

/-! ## One step -/

/-- What a step can do: find the target, have nowhere to go, pass over a type that was visited before,
or visit a type. -/
theorem walkStep_cases (p : Program) (target : TypeId) (w : Walk) :
    (∃ rest, w.pending = target :: rest ∧ p.walkStep target w = .inl true) ∨
    (w.pending = [] ∧ p.walkStep target w = .inl false) ∨
    (∃ t rest, w.pending = t :: rest ∧ t ≠ target ∧ t ∈ w.visited ∧
      p.walkStep target w = .inr ⟨w.visited, rest⟩) ∨
    (∃ t rest, w.pending = t :: rest ∧ t ≠ target ∧ t ∉ w.visited ∧
      p.walkStep target w = .inr ⟨t :: w.visited, (p.supertypesOf t).reverse ++ rest⟩) := by
  obtain ⟨visited, pending⟩ := w
  cases pending with
  | nil => exact .inr (.inl ⟨rfl, rfl⟩)
  | cons t rest =>
      by_cases htarget : t = target
      · subst htarget
        exact .inl ⟨rest, rfl, by simp [walkStep]⟩
      · by_cases hvisited : t ∈ visited
        · exact .inr (.inr (.inl ⟨t, rest, rfl, htarget, hvisited, by
            simp [walkStep, htarget, hvisited]⟩))
        · exact .inr (.inr (.inr ⟨t, rest, rfl, htarget, hvisited, by
            simp [walkStep, htarget, hvisited]⟩))

/-! ## Every walk ends -/

/-- The known types that a walk has not visited. -/
def unvisited (p : Program) (w : Walk) : Finset TypeId :=
  (Finset.range p.types.length).filter (· ∉ w.visited)

/-- The types that a walk can still take from those that come next: the ones there, and the supertypes of
known types that it has not visited. -/
def left (p : Program) (w : Walk) : Nat :=
  w.pending.length + ∑ t ∈ p.unvisited w, (p.supertypesOf t).length

/-- Visiting a type leaves all others as they were. -/
theorem unvisited_visit (p : Program) (visited pending pending' : List TypeId) (t : TypeId) :
    p.unvisited ⟨t :: visited, pending'⟩ = (p.unvisited ⟨visited, pending⟩).erase t := by
  ext u
  simp only [unvisited, Finset.mem_filter, Finset.mem_erase, List.mem_cons, not_or]
  tauto

/-- The supertypes of a type that is visited are no longer ahead of the walk. An unknown type has
none. -/
theorem sum_unvisited_visit {visited : List TypeId} (ht : t ∉ visited) (rest pending : List TypeId) :
    (p.supertypesOf t).length +
      ∑ u ∈ p.unvisited ⟨t :: visited, rest⟩, (p.supertypesOf u).length =
        ∑ u ∈ p.unvisited ⟨visited, pending⟩, (p.supertypesOf u).length := by
  rw [unvisited_visit p visited pending rest t]
  by_cases hknown : t < p.types.length
  · refine Finset.add_sum_erase _ (fun u => (p.supertypesOf u).length) ?_
    simp [unvisited, hknown, ht]
  · have hnot : t ∉ p.unvisited ⟨visited, pending⟩ := by simp [unvisited, hknown]
    rw [Finset.erase_eq_of_notMem hnot, supertypesOf_eq_nil (Nat.le_of_not_lt hknown),
      List.length_nil, Nat.zero_add]

/-- Every step that goes on takes one type from those that come next, for good. -/
theorem left_of_walkStep (h : p.walkStep target w = .inr next) : p.left next + 1 = p.left w := by
  obtain ⟨visited, pending⟩ := w
  rcases walkStep_cases p target ⟨visited, pending⟩ with ⟨rest, -, hstep⟩ | ⟨-, hstep⟩ |
    ⟨t, rest, rfl, -, -, hstep⟩ | ⟨t, rest, rfl, -, hnew, hstep⟩
  · simp [hstep] at h
  · simp [hstep] at h
  · obtain rfl : _ = next := Sum.inr.inj (hstep.symm.trans h)
    have hsame : p.unvisited ⟨visited, rest⟩ = p.unvisited ⟨visited, t :: rest⟩ := rfl
    simp only [left, hsame, List.length_cons]
    omega
  · obtain rfl : _ = next := Sum.inr.inj (hstep.symm.trans h)
    have hsum := p.sum_unvisited_visit hnew ((p.supertypesOf t).reverse ++ rest) (t :: rest)
    simp only [left, ← hsum, List.length_append, List.length_reverse, List.length_cons]
    omega

/-- A walk has an answer as soon as it may take more steps than it has types left. -/
theorem exists_answer (h : p.left w < steps) : ∃ answer, p.walk target steps w = some answer := by
  induction steps generalizing w with
  | zero => exact absurd h (Nat.not_lt_zero _)
  | succ steps ih =>
      rw [walk]
      cases hstep : p.walkStep target w with
      | inl answer => exact ⟨answer, rfl⟩
      | inr next =>
          have hless := left_of_walkStep hstep
          exact ih (by omega)

/-- An answer stays, however many more steps are allowed. -/
theorem walk_of_le (h : p.walk target steps w = some answer) (hle : steps ≤ more) :
    p.walk target more w = some answer := by
  induction steps generalizing w more with
  | zero => simp [walk] at h
  | succ steps ih =>
      obtain ⟨more, rfl⟩ := Nat.exists_eq_add_of_lt (Nat.lt_of_lt_of_le (Nat.lt_succ_self steps) hle)
      rw [walk] at h ⊢
      cases hstep : p.walkStep target w with
      | inl found =>
          rw [hstep] at h
          exact h
      | inr next =>
          rw [hstep] at h
          exact ih h (Nat.le_add_right _ _)

/-- What a walk has left at its first type: that type, and all supertypes there are. -/
theorem left_start (p : Program) (source : TypeId) : p.left (.start source) + 1 = p.walkBound := by
  have hall : p.unvisited (.start source) = Finset.range p.types.length := by
    simp [unvisited, Walk.start]
  have hsum : ∑ t ∈ Finset.range p.types.length, (p.supertypesOf t).length =
      ((List.range p.types.length).flatMap p.supertypesOf).length := by
    rw [List.length_flatMap]
    rfl
  rw [left, hall, hsum, walkBound, Walk.start, List.length_singleton]
  omega

/-- A walk ends within the bound, with the answer that no further step changes. -/
theorem walk_of_bound_le (hle : p.walkBound ≤ steps) :
    p.walk target steps (.start source) = some (p.reaches source target) := by
  have hbound := p.left_start source
  have hends : ∃ answer, p.walk target p.walkBound (.start source) = some answer :=
    exists_answer (by omega)
  obtain ⟨answer, hanswer⟩ := hends
  have hreaches : p.reaches source target = answer := by
    rw [reaches, hanswer]
    cases answer <;> rfl
  rw [hreaches]
  exact walk_of_le hanswer hle

/-! ## The answer is right -/

/-- Between two steps of a walk that has not found its target: it has only types above its first one
ahead, and what is above a visited type was visited too, or it is ahead. -/
structure Frontier (p : Program) (source target : TypeId) (w : Walk) : Prop where
  source_mem : source ∈ w.visited ∨ source ∈ w.pending
  target_not_mem : target ∉ w.visited
  above : ∀ t ∈ w.pending, Relation.ReflTransGen p.Extends source t
  closed : ∀ {t u : TypeId}, t ∈ w.visited → p.Extends t u → u ∈ w.visited ∨ u ∈ w.pending

namespace Frontier

theorem start (p : Program) (source target : TypeId) : p.Frontier source target (.start source) where
  source_mem := .inr (List.mem_singleton_self source)
  target_not_mem := List.not_mem_nil
  above t ht := by
    obtain rfl := List.mem_singleton.1 ht
    exact .refl
  closed ht := absurd ht List.not_mem_nil

theorem step (h : p.Frontier source target w) (hstep : p.walkStep target w = .inr next) :
    p.Frontier source target next := by
  obtain ⟨visited, pending⟩ := w
  rcases walkStep_cases p target ⟨visited, pending⟩ with ⟨rest, -, heq⟩ | ⟨-, heq⟩ |
    ⟨t, rest, rfl, htarget, hold, heq⟩ | ⟨t, rest, rfl, htarget, -, heq⟩
  · simp [heq] at hstep
  · simp [heq] at hstep
  · obtain rfl : _ = next := Sum.inr.inj (heq.symm.trans hstep)
    -- a type that is ahead was visited, or it still is ahead
    have hstill {u : TypeId} (hu : u ∈ visited ∨ u ∈ t :: rest) : u ∈ visited ∨ u ∈ rest := by
      rcases hu with hu | hu
      · exact .inl hu
      · rcases List.mem_cons.1 hu with rfl | hu
        · exact .inl hold
        · exact .inr hu
    exact
      { source_mem := hstill h.source_mem
        target_not_mem := h.target_not_mem
        above := fun u hu => h.above u (List.mem_cons_of_mem t hu)
        closed := fun hmem hextends => hstill (h.closed hmem hextends) }
  · obtain rfl : _ = next := Sum.inr.inj (heq.symm.trans hstep)
    have hstill {u : TypeId} (hu : u ∈ visited ∨ u ∈ t :: rest) :
        u ∈ t :: visited ∨ u ∈ (p.supertypesOf t).reverse ++ rest := by
      simp only [List.mem_cons, List.mem_append] at hu ⊢
      tauto
    have hsource : Relation.ReflTransGen p.Extends source t := h.above t List.mem_cons_self
    refine
      { source_mem := hstill h.source_mem
        target_not_mem := ?_
        above := fun u hu => ?_
        closed := fun {v u} hmem hextends => ?_ }
    · rw [List.mem_cons, not_or]
      exact ⟨Ne.symm htarget, h.target_not_mem⟩
    · rcases List.mem_append.1 hu with hu | hu
      · exact hsource.tail (List.mem_reverse.1 hu)
      · exact h.above u (List.mem_cons_of_mem t hu)
    · rcases List.mem_cons.1 hmem with rfl | hmem
      · exact .inr (List.mem_append_left _ (List.mem_reverse.2 hextends))
      · exact hstill (h.closed hmem hextends)

/-- A walk that has nowhere to go has visited everything above its first type. -/
theorem mem_visited (h : p.Frontier source target w) (hdone : w.pending = [])
    (habove : Relation.ReflTransGen p.Extends source t) : t ∈ w.visited := by
  induction habove with
  | refl => simpa [hdone] using h.source_mem
  | tail _ hextends ih => simpa [hdone] using h.closed ih hextends

theorem answer_iff (h : p.Frontier source target w) (hstep : p.walkStep target w = .inl answer) :
    answer = true ↔ Relation.ReflTransGen p.Extends source target := by
  rcases walkStep_cases p target w with ⟨rest, hpending, heq⟩ | ⟨hdone, heq⟩ |
    ⟨t, rest, -, -, -, heq⟩ | ⟨t, rest, -, -, -, heq⟩
  · obtain rfl : true = answer := Sum.inl.inj (heq.symm.trans hstep)
    have hmem : target ∈ w.pending := by
      rw [hpending]
      exact List.mem_cons_self
    simpa using h.above target hmem
  · obtain rfl : false = answer := Sum.inl.inj (heq.symm.trans hstep)
    simpa using fun hchain => h.target_not_mem (h.mem_visited hdone hchain)
  · simp [heq] at hstep
  · simp [heq] at hstep

theorem walk_iff (h : p.Frontier source target w) (hwalk : p.walk target steps w = some answer) :
    answer = true ↔ Relation.ReflTransGen p.Extends source target := by
  induction steps generalizing w with
  | zero => simp [walk] at hwalk
  | succ steps ih =>
      rw [walk] at hwalk
      cases hstep : p.walkStep target w with
      | inl found =>
          rw [hstep] at hwalk
          obtain rfl : found = answer := Option.some.inj hwalk
          exact h.answer_iff hstep
      | inr next =>
          rw [hstep] at hwalk
          exact ih (h.step hstep) hwalk

end Frontier

/-- The walk decides whether a chain of declared supertypes leads from one type to another. -/
theorem reaches_iff : p.reaches source target = true ↔
    Relation.ReflTransGen p.Extends source target :=
  (Frontier.start p source target).walk_iff (walk_of_bound_le (Nat.le_refl _))

end Program

end ModContracts
