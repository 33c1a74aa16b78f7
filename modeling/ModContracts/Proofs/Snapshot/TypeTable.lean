import ModContracts.Proofs.Program.Subtyping
import ModContracts.Proofs.Snapshot.Closed

/-!
# The table of types of a loaded program

A loaded program knows the names that its snapshot declares. The supertypes of a type are those that are
written for its name, by library types and by type declarations alike.

* `Program.extends_loadAllSupertypes` — what the phase that adds supertypes adds;
* `Snapshot.writes` — the supertypes that are written, each with the name it is written for;
* `Snapshot.mem_names_of_load`, `Snapshot.extends_iff_of_load` — the names and the supertypes that a
  loaded program knows.
-/

namespace ModContracts

namespace Program

variable {p q : Program} {t u type super : TypeId}

/-! ## Supertypes -/

/-- A known type gets the supertype that is added, and no type gets another one. -/
theorem extends_addSupertype (hknown : type < p.types.length) :
    (p.addSupertype type super).Extends t u ↔ p.Extends t u ∨ t = type ∧ u = super := by
  unfold Extends supertypesOf addSupertype
  rw [List.getElem?_modify]
  by_cases ht : type = t
  · subst ht
    rw [List.getElem?_eq_getElem hknown]
    by_cases hsuper : super ∈ p.types[type].supertypes
    · simp only [if_pos hsuper, if_true, Option.map_eq_map, Option.map_some, true_and]
      constructor
      · exact .inl
      · rintro (hu | rfl)
        · exact hu
        · exact hsuper
    · simp [if_neg hsuper]
  · simp [if_neg ht, Ne.symm ht]

theorem extends_loadSupertypes {supers : List String} (hknown : type < p.types.length)
    (h : p.loadSupertypes type supers = .ok q) :
    q.Extends t u ↔
      p.Extends t u ∨ t = type ∧ ∃ super ∈ supers, p.typeId? super = some u := by
  induction supers generalizing p with
  | nil =>
      obtain rfl : p = q := by simpa [loadSupertypes] using h
      simp
  | cons name rest ih =>
      obtain ⟨super, hsuper, h⟩ := bind_eq_ok_iff.1 h
      have hlength : type < (p.addSupertype type super).types.length := by
        simpa [addSupertype] using hknown
      rw [ih hlength h, extends_addSupertype hknown,
        (sameNames_addSupertype p type super).typeId?_eq, or_assoc]
      rw [resolve_eq_ok_iff] at hsuper
      simp only [List.mem_cons, exists_eq_or_imp, hsuper, Option.some.injEq, ← and_or_left,
        eq_comm (a := u)]

/-- Each of some types gets the supertypes written for its name. -/
theorem extends_loadAllSupertypes {named : List (String × List String)} (hp : p.Indexed)
    (h : p.loadAllSupertypes named = .ok q) :
    q.Extends t u ↔ p.Extends t u ∨
      ∃ entry ∈ named, p.typeId? entry.1 = some t ∧ ∃ super ∈ entry.2, p.typeId? super = some u := by
  induction named generalizing p with
  | nil =>
      obtain rfl : p = q := by simpa [loadAllSupertypes] using h
      simp
  | cons entry rest ih =>
      obtain ⟨type, htype, h⟩ := bind_eq_ok_iff.1 h
      obtain ⟨r, hr, h⟩ := bind_eq_ok_iff.1 h
      rw [resolve_eq_ok_iff] at htype
      have hknown : type < p.types.length := by
        have hname := typeName_eq_ok_iff.1 (hp.typeName_of_typeId? htype)
        simpa [names] using (List.getElem?_eq_some_iff.1 hname).1
      obtain ⟨hnames, -⟩ := loadSupertypes_ok hr
      rw [ih (hnames.indexed hp) h, extends_loadSupertypes hknown hr, hnames.typeId?_eq, or_assoc]
      simp only [List.mem_cons, exists_eq_or_imp, htype, Option.some.injEq, eq_comm (a := t)]

end Program

/-! ## Loaded programs -/

namespace Snapshot

variable {s : Snapshot} {p : Program}

/-- The supertypes that a snapshot writes, each with the name it is written for. -/
def writes (s : Snapshot) : List (String × String) :=
  s.namedTypes.flatMap fun entry => entry.2.map fun super => (entry.1, super)

theorem mem_writes_iff {name super : String} :
    (name, super) ∈ s.writes ↔ ∃ entry ∈ s.namedTypes, entry.1 = name ∧ super ∈ entry.2 := by
  unfold writes
  simp only [List.mem_flatMap, List.mem_map, Prod.mk.injEq]
  constructor
  · intro h
    obtain ⟨entry, hentry, super, hsuper, hname, rfl⟩ := h
    exact ⟨entry, hentry, hname, hsuper⟩
  · intro h
    obtain ⟨entry, hentry, hname, hsuper⟩ := h
    exact ⟨entry, hentry, super, hsuper, hname, rfl⟩

/-- A loaded program knows the built-in names and those that the snapshot declares. -/
theorem mem_names_of_load (h : s.load = .ok p) (name : String) :
    name ∈ p.names ↔ name ∈ s.declaredNames ∨ name ∈ builtinNames := by
  obtain ⟨q, hq, -⟩ := bind_eq_ok_iff.1 h
  obtain ⟨hindexed, -, -⟩ := loadTypes_ok hq
  rw [load_eq_loadNodes hq] at h
  rw [(loadNodes_frame hindexed h).1.names_eq, ← hindexed.exists_typeId?_iff,
    exists_typeId?_iff_of_loadTypes hq]

/-- The supertypes of a type are those that are written for its name. -/
theorem extends_iff_of_load (h : s.load = .ok p) {t u : TypeId} :
    p.Extends t u ↔
      ∃ name super, (name, super) ∈ s.writes ∧ p.typeId? name = some t ∧
        p.typeId? super = some u := by
  obtain ⟨q, hq, -⟩ := bind_eq_ok_iff.1 h
  obtain ⟨hindexed, -, -⟩ := loadTypes_ok hq
  rw [load_eq_loadNodes hq] at h
  have htypes : p.types = q.types := types_loadNodes hindexed h
  have hids : p.typeId? = q.typeId? := (loadNodes_frame hindexed h).1.typeId?_eq
  rw [loadTypes_eq (nodup_of_loadTypes hq)] at hq
  have hregistered := Program.indexed_initial.registerAll (s.namedTypes.map Prod.fst)
  have hnone : ¬ (Program.initial.registerAll (s.namedTypes.map Prod.fst)).Extends t u := by
    unfold Program.Extends Program.supertypesOf
    split
    case h_1 entry hentry =>
        rw [Program.supertypes_registerAll (by decide) entry (List.mem_of_getElem? hentry)]
        exact List.not_mem_nil
    case h_2 => exact List.not_mem_nil
  have hsame : q.typeId? = (Program.initial.registerAll (s.namedTypes.map Prod.fst)).typeId? :=
    (Program.loadAllSupertypes_ok hq).1.typeId?_eq
  unfold Program.Extends Program.supertypesOf
  rw [htypes, hids, hsame]
  refine (Program.extends_loadAllSupertypes hregistered hq).trans ?_
  rw [or_iff_right hnone]
  simp only [mem_writes_iff]
  constructor
  · intro h'
    obtain ⟨entry, hentry, ht, super, hsuper, hu⟩ := h'
    exact ⟨entry.1, super, ⟨entry, hentry, rfl, hsuper⟩, ht, hu⟩
  · intro h'
    obtain ⟨_, super, ⟨entry, hentry, rfl, hsuper⟩, ht, hu⟩ := h'
    exact ⟨entry, hentry, ht, super, hsuper, hu⟩

end Snapshot

end ModContracts
