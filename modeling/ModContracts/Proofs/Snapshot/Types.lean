import ModContracts.Proofs.Program.Naming
import ModContracts.Proofs.Snapshot.Values

/-!
# The types of a snapshot

Before any declaration, loading registers every type a snapshot names and then adds the written
supertypes. Each function of that phase is described by when it succeeds and by the names the
program knows afterwards.

* `Program.Bare` — a program with types only;
* `firstDuplicate?_eq_none_iff`, `Program.loadAllSupertypes_ok`,
  `Program.exists_loadAllSupertypes_iff` — the functions of the phase;
* `Program.loadAllSupertypes_induction` — what adding supertypes keeps;
* `Snapshot.exists_loadTypes_iff` — the types can be loaded exactly when no name stands for two of
  them and all supertypes are known;
* `Snapshot.loadTypes_ok` — the program then knows the built-in names and the named ones.
-/

namespace ModContracts

/-! ## Names that stand for two types -/

theorem firstDuplicate?_eq_none_iff {seen names : List String} :
    firstDuplicate? seen names = none ↔ names.Nodup ∧ ∀ name ∈ names, name ∉ seen := by
  induction names generalizing seen with
  | nil => simp [firstDuplicate?]
  | cons name rest ih =>
      rw [firstDuplicate?]
      by_cases h : name ∈ seen
      · simp [h]
      · rw [if_neg h, ih, List.nodup_cons]
        constructor
        · intro h'
          obtain ⟨hnodup, hrest⟩ := h'
          refine ⟨⟨fun hmem => hrest name hmem (by simp), hnodup⟩, ?_⟩
          rw [List.forall_mem_cons]
          exact ⟨h, fun x hx hseen => hrest x hx (by simp [hseen])⟩
        · intro h'
          obtain ⟨⟨hname, hnodup⟩, hseen⟩ := h'
          refine ⟨hnodup, fun x hx hmem => ?_⟩
          rcases List.mem_cons.1 hmem with rfl | hmem
          · exact hname hx
          · exact hseen x (by simp [hx]) hmem

namespace Program

variable {p q : Program} {type : TypeId} {names : List String}

/-! ## Programs without declarations -/

/-- A program that has types, but no declaration and no attachment. -/
structure Bare (p : Program) : Prop where
  declarations : p.declarations = []
  attachments : p.attachments = []
  introducedBy : p.introducedBy = []
  carriers : p.carriers = []

theorem bare_initial : Program.initial.Bare :=
  ⟨rfl, rfl, rfl, rfl⟩

theorem Bare.register (h : p.Bare) (name : String) (kind : TypeKind) :
    (p.register name kind).1.Bare := by
  unfold Program.register
  cases p.typeId? name <;> exact ⟨h.1, h.2, h.3, h.4⟩

theorem Bare.addSupertype (h : p.Bare) (type super : TypeId) : (p.addSupertype type super).Bare :=
  ⟨h.1, h.2, h.3, h.4⟩

/-! ## Registering -/

theorem Indexed.registerAll (h : p.Indexed) (names : List String) :
    (p.registerAll names).Indexed := by
  induction names generalizing p with
  | nil => exact h
  | cons name rest ih => exact ih (h.register name .declared)

theorem Bare.registerAll (h : p.Bare) (names : List String) : (p.registerAll names).Bare := by
  induction names generalizing p with
  | nil => exact h
  | cons name rest ih => exact ih (h.register name .declared)

/-- Registering names adds them to the known ones, and nothing else. -/
theorem Indexed.mem_names_registerAll (h : p.Indexed) (names : List String) (x : String) :
    x ∈ (p.registerAll names).names ↔ x ∈ p.names ∨ x ∈ names := by
  induction names generalizing p with
  | nil => simp [Program.registerAll]
  | cons name rest ih =>
      refine (ih (h.register name .declared)).trans ?_
      rw [h.mem_names_register, List.mem_cons, or_assoc]

/-! ## Supertypes -/

theorem loadSupertypes_ok (h : p.loadSupertypes type names = .ok q) :
    p.SameNames q ∧ (p.Bare → q.Bare) := by
  induction names generalizing p with
  | nil =>
      obtain rfl : p = q := by simpa [loadSupertypes] using h
      exact ⟨.refl p, id⟩
  | cons name rest ih =>
      obtain ⟨super, -, h⟩ := bind_eq_ok_iff.1 h
      obtain ⟨hnames, hbare⟩ := ih h
      exact ⟨(sameNames_addSupertype p type super).trans hnames,
        fun hp => hbare (hp.addSupertype type super)⟩

theorem exists_loadSupertypes_iff :
    (∃ q, p.loadSupertypes type names = .ok q) ↔ Resolve p.typeId? names := by
  induction names generalizing p with
  | nil => simp [loadSupertypes]
  | cons name rest ih =>
      simp only [loadSupertypes, bind_eq_ok_iff, resolve_eq_ok_iff, resolve_cons]
      -- a supertype that is added changes no name
      have hsuper (super : TypeId) :
          (∃ q, (p.addSupertype type super).loadSupertypes type rest = .ok q) ↔
            Resolve p.typeId? rest := by
        rw [ih, (sameNames_addSupertype p type super).typeId?_eq]
      constructor
      · intro h
        obtain ⟨q, super, hname, h⟩ := h
        exact ⟨⟨super, hname⟩, (hsuper super).1 ⟨q, h⟩⟩
      · intro h'
        obtain ⟨⟨super, hname⟩, hrest⟩ := h'
        obtain ⟨q, h⟩ := (hsuper super).2 hrest
        exact ⟨q, super, hname, h⟩

variable {named : List (String × List String)}

theorem loadAllSupertypes_ok (h : p.loadAllSupertypes named = .ok q) :
    p.SameNames q ∧ (p.Bare → q.Bare) := by
  induction named generalizing p with
  | nil =>
      obtain rfl : p = q := by simpa [loadAllSupertypes] using h
      exact ⟨.refl p, id⟩
  | cons entry rest ih =>
      obtain ⟨type, -, h⟩ := bind_eq_ok_iff.1 h
      obtain ⟨r, hr, h⟩ := bind_eq_ok_iff.1 h
      obtain ⟨hnames, hbare⟩ := loadSupertypes_ok hr
      obtain ⟨hnames', hbare'⟩ := ih h
      exact ⟨hnames.trans hnames', fun hp => hbare' (hbare hp)⟩

/-- What adding a supertype with a name keeps is kept by adding the supertypes of one type. -/
theorem loadSupertypes_induction {r : Program} {motive : Program → Prop}
    (hadd : ∀ (r : Program) (type super : TypeId), p.SameNames r →
      (∃ name, p.typeId? name = some super) → motive r → motive (r.addSupertype type super))
    (hnames : p.SameNames r) (hr : motive r) (h : r.loadSupertypes type names = .ok q) :
    motive q := by
  induction names generalizing r with
  | nil =>
      obtain rfl : r = q := by simpa [loadSupertypes] using h
      exact hr
  | cons name rest ih =>
      obtain ⟨super, hsuper, h⟩ := bind_eq_ok_iff.1 h
      rw [resolve_eq_ok_iff, hnames.typeId?_eq] at hsuper
      exact ih (hnames.trans (sameNames_addSupertype r type super))
        (hadd r type super hnames ⟨name, hsuper⟩ hr) h

/-- What adding a supertype with a name keeps is kept by adding the supertypes of some types. -/
theorem loadAllSupertypes_induction {r : Program} {motive : Program → Prop}
    (hadd : ∀ (r : Program) (type super : TypeId), p.SameNames r →
      (∃ name, p.typeId? name = some super) → motive r → motive (r.addSupertype type super))
    (hnames : p.SameNames r) (hr : motive r) (h : r.loadAllSupertypes named = .ok q) :
    motive q := by
  induction named generalizing r with
  | nil =>
      obtain rfl : r = q := by simpa [loadAllSupertypes] using h
      exact hr
  | cons entry rest ih =>
      obtain ⟨type, -, h⟩ := bind_eq_ok_iff.1 h
      obtain ⟨next, hnext, h⟩ := bind_eq_ok_iff.1 h
      exact ih (hnames.trans (loadSupertypes_ok hnext).1)
        (loadSupertypes_induction hadd hnames hr hnext) h

/-- The supertypes of some types can be added when the types and the supertypes are known. -/
theorem exists_loadAllSupertypes_iff :
    (∃ q, p.loadAllSupertypes named = .ok q) ↔
      Resolve p.typeId? (named.map Prod.fst) ∧ Resolve p.typeId? (named.flatMap Prod.snd) := by
  induction named generalizing p with
  | nil => simp [loadAllSupertypes]
  | cons entry rest ih =>
      obtain ⟨name, supertypes⟩ := entry
      simp only [loadAllSupertypes, bind_eq_ok_iff, resolve_eq_ok_iff, List.map_cons,
        List.flatMap_cons, resolve_cons, resolve_append]
      have hrest {type : TypeId} {r : Program} (hr : p.loadSupertypes type supertypes = .ok r) :
          (∃ q, r.loadAllSupertypes rest = .ok q) ↔
            Resolve p.typeId? (rest.map Prod.fst) ∧ Resolve p.typeId? (rest.flatMap Prod.snd) := by
        rw [ih, (loadSupertypes_ok hr).1.typeId?_eq]
      constructor
      · intro h
        obtain ⟨q, type, hname, r, hr, h⟩ := h
        obtain ⟨hnames, hsupers⟩ := (hrest hr).1 ⟨q, h⟩
        exact ⟨⟨⟨type, hname⟩, hnames⟩, exists_loadSupertypes_iff.1 ⟨r, hr⟩, hsupers⟩
      · intro h'
        obtain ⟨⟨⟨type, hname⟩, hnames⟩, hsuper, hsupers⟩ := h'
        obtain ⟨r, hr⟩ : ∃ r, p.loadSupertypes type supertypes = .ok r :=
          exists_loadSupertypes_iff.2 hsuper
        obtain ⟨q, h⟩ := (hrest hr).2 ⟨hnames, hsupers⟩
        exact ⟨q, type, hname, r, hr, h⟩

end Program

/-! ## The phase -/

namespace Snapshot

variable {s : Snapshot} {p : Program}

/-- The names of the built-in types. -/
def builtinNames : List String :=
  builtinTypes.map TypeEntry.name

theorem names_initial : Program.initial.names = builtinNames := rfl

/-- The program with all types of a snapshot registered. -/
theorem loadTypes_eq (hnodup : (s.namedTypes.map Prod.fst).Nodup) :
    s.loadTypes =
      (Program.initial.registerAll (s.namedTypes.map Prod.fst)).loadAllSupertypes s.namedTypes := by
  have hnone : firstDuplicate? [] (s.namedTypes.map Prod.fst) = none :=
    firstDuplicate?_eq_none_iff.2 ⟨hnodup, by simp⟩
  simp only [loadTypes, hnone]

theorem nodup_of_loadTypes (h : s.loadTypes = .ok p) : (s.namedTypes.map Prod.fst).Nodup := by
  unfold loadTypes at h
  cases hdup : firstDuplicate? [] (s.namedTypes.map Prod.fst) with
  | none => exact (firstDuplicate?_eq_none_iff.1 hdup).1
  | some name => simp [hdup] at h

theorem mem_names_registerAll (names : List String) (x : String) :
    x ∈ (Program.initial.registerAll names).names ↔ x ∈ builtinNames ∨ x ∈ names := by
  rw [Program.indexed_initial.mem_names_registerAll, names_initial]

/-- After the types are loaded, a program has no declarations yet and knows exactly the built-in
names and those the snapshot names. -/
theorem loadTypes_ok (h : s.loadTypes = .ok p) :
    p.Indexed ∧ p.Bare ∧ ∀ x, x ∈ p.names ↔ x ∈ builtinNames ∨ x ∈ s.namedTypes.map Prod.fst := by
  rw [loadTypes_eq (nodup_of_loadTypes h)] at h
  obtain ⟨hnames, hbare⟩ := Program.loadAllSupertypes_ok h
  refine ⟨hnames.indexed (Program.indexed_initial.registerAll _),
    hbare (Program.bare_initial.registerAll _), fun x => ?_⟩
  rw [hnames.names_eq, mem_names_registerAll]

/-- The types of a snapshot can be loaded exactly when no name stands for two of them and every
supertype is a built-in type or one of them. -/
theorem exists_loadTypes_iff :
    (∃ p, s.loadTypes = .ok p) ↔
      (s.namedTypes.map Prod.fst).Nodup ∧
        ∀ x ∈ s.namedTypes.flatMap Prod.snd, x ∈ builtinNames ∨ x ∈ s.namedTypes.map Prod.fst := by
  have hresolve (xs : List String) :
      Resolve (Program.initial.registerAll (s.namedTypes.map Prod.fst)).typeId? xs ↔
        ∀ x ∈ xs, x ∈ builtinNames ∨ x ∈ s.namedTypes.map Prod.fst := by
    simp only [Resolve, (Program.indexed_initial.registerAll _).exists_typeId?_iff,
      mem_names_registerAll]
  constructor
  · intro h
    obtain ⟨p, h⟩ := h
    have hnodup := nodup_of_loadTypes h
    rw [loadTypes_eq hnodup] at h
    exact ⟨hnodup, (hresolve _).1 (Program.exists_loadAllSupertypes_iff.1 ⟨p, h⟩).2⟩
  · intro h'
    obtain ⟨hnodup, hsupers⟩ := h'
    rw [loadTypes_eq hnodup, Program.exists_loadAllSupertypes_iff]
    exact ⟨(hresolve _).2 fun x hx => .inr hx, (hresolve _).2 hsupers⟩

end Snapshot

end ModContracts
