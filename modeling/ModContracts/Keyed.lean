/-!
# Keyed lists

Association lists in insertion order, for tables whose order can be seen: a repeated key keeps its
first place and takes the last value.

* `Keyed` — the lists;
* `Keyed.find?`, `Keyed.put`, `Keyed.ofList` — look-up, insertion, and insertion of all pairs;
* `Keyed.find?_put` — what insertion does to look-up;
* `Keyed.find?_eq_some_iff` — look-up finds exactly the pairs, as long as no key is repeated;
* `Keyed.ofList_of_nodup` — pairs without a repeated key are kept as they are.
-/

namespace ModContracts

/-- Pairs of a key and its value, in insertion order. -/
abbrev Keyed (κ α : Type) := List (κ × α)

namespace Keyed

variable {κ α β : Type} [DecidableEq κ]

/-- The value of a key. -/
def find? : Keyed κ α → κ → Option α
  | [], _ => none
  | (k, v) :: rest, key => if k = key then some v else find? rest key

/-- Gives a key its value: in the place of the key's present value, or else at the end. -/
def put : Keyed κ α → κ → α → Keyed κ α
  | [], key, value => [(key, value)]
  | (k, v) :: rest, key, value =>
    if k = key then (k, value) :: rest else (k, v) :: put rest key value

/-- Puts further pairs into a list, in order. -/
def putAll (xs : Keyed κ α) (pairs : List (κ × α)) : Keyed κ α :=
  pairs.foldl (fun acc p => put acc p.1 p.2) xs

/-- The keyed list of some pairs. -/
def ofList (pairs : List (κ × α)) : Keyed κ α :=
  putAll [] pairs

theorem find?_put (xs : Keyed κ α) (key : κ) (value : α) (k : κ) :
    find? (put xs key value) k = if key = k then some value else find? xs k := by
  induction xs with
  | nil => simp [put, find?]
  | cons p rest ih =>
    obtain ⟨k', v'⟩ := p
    by_cases h : k' = key
    · subst h
      by_cases hk : k' = k <;> simp [put, find?, hk]
    · by_cases hk : k' = k
      · subst hk
        simp [put, find?, h, Ne.symm h]
      · simp [put, find?, h, hk, ih]

theorem find?_eq_none_iff {xs : Keyed κ α} {key : κ} :
    find? xs key = none ↔ key ∉ xs.map Prod.fst := by
  induction xs with
  | nil => simp [find?]
  | cons p rest ih =>
    obtain ⟨k, v⟩ := p
    by_cases h : k = key
    · simp [find?, h]
    · simp [find?, h, ih, Ne.symm h]

theorem put_of_not_mem {xs : Keyed κ α} {key : κ} (h : key ∉ xs.map Prod.fst) (value : α) :
    put xs key value = xs ++ [(key, value)] := by
  induction xs with
  | nil => rfl
  | cons p rest ih =>
    obtain ⟨k, v⟩ := p
    simp only [List.map_cons, List.mem_cons, not_or] at h
    simp [put, Ne.symm h.1, ih h.2]

theorem find?_eq_some_iff {xs : Keyed κ α} (h : (xs.map Prod.fst).Nodup) {key : κ} {value : α} :
    find? xs key = some value ↔ (key, value) ∈ xs := by
  induction xs with
  | nil => simp [find?]
  | cons p rest ih =>
    obtain ⟨k, v⟩ := p
    simp only [List.map_cons, List.nodup_cons] at h
    by_cases hk : k = key
    · subst hk
      have hnone : (k, value) ∉ rest := fun hmem => h.1 (List.mem_map_of_mem hmem)
      simp [find?, hnone, eq_comm]
    · simp [find?, hk, Ne.symm hk, ih h.2]

theorem putAll_of_nodup {pairs : List (κ × α)} :
    ∀ {xs : Keyed κ α}, ((xs ++ pairs).map Prod.fst).Nodup → putAll xs pairs = xs ++ pairs := by
  induction pairs with
  | nil => intro xs _; simp [putAll]
  | cons p rest ih =>
    intro xs h
    have hnot : p.1 ∉ xs.map Prod.fst := by
      intro hmem
      rw [List.map_append, List.nodup_append] at h
      exact h.2.2 p.1 hmem p.1 (by simp) rfl
    have hrest : ((xs ++ [p] ++ rest).map Prod.fst).Nodup := by simpa using h
    calc putAll xs (p :: rest)
      _ = putAll (put xs p.1 p.2) rest := rfl
      _ = putAll (xs ++ [p]) rest := by rw [put_of_not_mem hnot]
      _ = xs ++ [p] ++ rest := ih hrest
      _ = xs ++ p :: rest := by simp

/-- Pairs without a repeated key are a keyed list as they stand. -/
theorem ofList_of_nodup {pairs : List (κ × α)} (h : (pairs.map Prod.fst).Nodup) :
    ofList pairs = pairs :=
  putAll_of_nodup (by simpa using h)

end Keyed

end ModContracts
