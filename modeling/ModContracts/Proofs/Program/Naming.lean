import ModContracts.Program.Build

/-!
# Names of types

A program keeps the ids of its type names beside the table of types. The two agree in every program
that edits build: the index is the list of names, each with its position, and no name is repeated.

* `Program.names` — the type names in id order;
* `Program.Indexed` — the agreement, kept by `Program.register` and `Program.addSupertype`;
* `Program.Indexed.typeId?_eq_some_iff` — a name stands for an id exactly when it is the name of
  the type behind that id;
* `isLastSegment_lastSegment` — what the last segment of a name is;
* `Program.SameNames` — two programs that know the same names under the same ids;
* `Program.register_cases`, `Program.addSupertype_cases` — what an edit of the table can do to it.
-/

namespace ModContracts

/-! ## Segments -/

/-- A segment without a dot in it, which is all of a name or follows a dot at the end of it. -/
def IsLastSegment (segment name : String) : Prop :=
  '.' ∉ segment.toList ∧ (name = segment ∨ ∃ front, name = front ++ "." ++ segment)

theorem isLastSegment_lastSegment (name : String) : IsLastSegment (lastSegment name) name := by
  have hsplit : name.toList.reverse = _ :=
    (List.takeWhile_append_dropWhile (p := (· ≠ '.')) (l := name.toList.reverse)).symm
  refine ⟨?_, ?_⟩
  · intro hdot
    rw [lastSegment, String.toList_ofList, List.mem_reverse] at hdot
    have hall := List.all_eq_true.1 List.all_takeWhile _ hdot
    simp at hall
  · cases hrest : name.toList.reverse.dropWhile (· ≠ '.') with
    | nil =>
        rw [hrest, List.append_nil] at hsplit
        left
        rw [lastSegment, ← hsplit, List.reverse_reverse, String.ofList_toList]
    | cons c rest =>
        have hc : c = '.' := by
          have hnot := List.head?_dropWhile_not (p := (· ≠ '.')) name.toList.reverse
          rw [hrest] at hnot
          simpa using hnot
        right
        refine ⟨String.ofList rest.reverse, ?_⟩
        rw [hrest, hc] at hsplit
        rw [← String.toList_inj, String.toList_append, String.toList_append, lastSegment]
        have := congrArg List.reverse hsplit
        simpa using this

namespace Program

variable {p q r : Program} {name : String} {t : TypeId}

/-! ## The index -/

/-- The names of the known types, in id order. -/
def names (p : Program) : List String :=
  p.types.map TypeEntry.name

theorem typeName_eq_ok_iff : p.typeName t = .ok name ↔ p.names[t]? = some name := by
  unfold typeName names
  cases h : p.types[t]? <;> simp [h]

/-- The index of type names lists every type once, under its own name. -/
structure Indexed (p : Program) : Prop where
  /-- The index pairs each name with its position. -/
  typeIds_eq : p.typeIds = p.names.zipIdx
  /-- No two types share a name. -/
  nodup_names : p.names.Nodup

theorem indexed_initial : Program.initial.Indexed :=
  ⟨rfl, by decide⟩

namespace Indexed

/-- The keys of the index are the names. -/
theorem map_fst_typeIds (h : p.Indexed) : p.typeIds.map Prod.fst = p.names := by
  rw [h.typeIds_eq]
  simp

/-- Names and ids are in bijection: a name stands for an id exactly when it is the name of the type
behind that id. -/
theorem typeId?_eq_some_iff (h : p.Indexed) : p.typeId? name = some t ↔ p.typeName t = .ok name := by
  have hkeys : (p.typeIds.map Prod.fst).Nodup := h.map_fst_typeIds ▸ h.nodup_names
  rw [typeName_eq_ok_iff, typeId?, Keyed.find?_eq_some_iff hkeys, h.typeIds_eq,
    List.mem_zipIdx_iff_getElem?]

theorem typeId?_eq_none_iff (h : p.Indexed) : p.typeId? name = none ↔ name ∉ p.names := by
  rw [typeId?, Keyed.find?_eq_none_iff, h.map_fst_typeIds]

theorem exists_typeId?_iff (h : p.Indexed) : (∃ t, p.typeId? name = some t) ↔ name ∈ p.names := by
  rw [← Option.isSome_iff_exists, Option.isSome_iff_ne_none, ne_eq, h.typeId?_eq_none_iff,
    Decidable.not_not]

/-- The type a name stands for is known. -/
theorem typeName_of_typeId? (h : p.Indexed) (ht : p.typeId? name = some t) :
    p.typeName t = .ok name :=
  h.typeId?_eq_some_iff.1 ht

/-- A type has one name. -/
theorem name_unique {other : String} (h : p.Indexed) (hname : p.typeId? name = some t)
    (hother : p.typeId? other = some t) : name = other :=
  Except.ok.inj ((h.typeName_of_typeId? hname).symm.trans (h.typeName_of_typeId? hother))

end Indexed

/-! ## Programs with the same names -/

/-- Two programs know the same type names under the same ids. -/
structure SameNames (p q : Program) : Prop where
  typeIds_eq : q.typeIds = p.typeIds
  names_eq : q.names = p.names

namespace SameNames

theorem refl (p : Program) : p.SameNames p :=
  ⟨rfl, rfl⟩

theorem trans (hpq : p.SameNames q) (hqr : q.SameNames r) : p.SameNames r :=
  ⟨hqr.typeIds_eq.trans hpq.typeIds_eq, hqr.names_eq.trans hpq.names_eq⟩

theorem typeId?_eq (h : p.SameNames q) : q.typeId? = p.typeId? := by
  funext name
  rw [typeId?, typeId?, h.typeIds_eq]

/-- Programs with the same tables of types know the same names. -/
theorem of_types_eq (htypes : q.types = p.types) (hids : q.typeIds = p.typeIds) : p.SameNames q :=
  ⟨hids, by rw [names, names, htypes]⟩

theorem indexed (h : p.SameNames q) (hp : p.Indexed) : q.Indexed where
  typeIds_eq := by rw [h.typeIds_eq, h.names_eq, hp.typeIds_eq]
  nodup_names := h.names_eq ▸ hp.nodup_names

end SameNames

/-! ## Edits of the type table -/

/-- A name that is new becomes the last type; a known one changes nothing. -/
theorem register_cases (p : Program) (name : String) (kind : TypeKind) :
    (∃ t, p.typeId? name = some t ∧ p.register name kind = (p, t)) ∨
    (p.typeId? name = none ∧ (p.register name kind).2 = p.types.length ∧
      (p.register name kind).1.names = p.names ++ [name] ∧
      (p.register name kind).1.typeIds = p.typeIds.put name p.types.length) := by
  cases h : p.typeId? name with
  | some t => exact .inl ⟨t, rfl, by simp [register, h]⟩
  | none => exact .inr ⟨rfl, by simp [register, h], by simp [register, h, names],
      by simp [register, h]⟩

theorem Indexed.register (h : p.Indexed) (name : String) (kind : TypeKind) :
    (p.register name kind).1.Indexed := by
  rcases register_cases p name kind with ⟨t, -, heq⟩ | ⟨hnone, -, hnames, hids⟩
  · rw [heq]
    exact h
  · have hnew : name ∉ p.names := h.typeId?_eq_none_iff.1 hnone
    have hkey : name ∉ p.typeIds.map Prod.fst := h.map_fst_typeIds ▸ hnew
    refine ⟨?_, ?_⟩
    · rw [hids, hnames, Keyed.put_of_not_mem hkey, h.typeIds_eq, List.zipIdx_append]
      simp [names]
    · rw [hnames, List.nodup_append]
      exact ⟨h.nodup_names, by simp, fun a ha b hb heq => hnew (by simp_all)⟩

/-- Known types keep their places. -/
theorem names_prefix_register (p : Program) (name : String) (kind : TypeKind) :
    p.names <+: (p.register name kind).1.names := by
  rcases register_cases p name kind with ⟨t, -, heq⟩ | ⟨-, -, hnames, -⟩
  · have hsame : (p.register name kind).1.names = p.names := by rw [heq]
    exact hsame ▸ List.prefix_refl _
  · rw [hnames]
    exact List.prefix_append _ _

/-- Registering a name adds that name to the known ones, and nothing else. -/
theorem Indexed.mem_names_register (h : p.Indexed) (name : String) (kind : TypeKind) (x : String) :
    x ∈ (p.register name kind).1.names ↔ x ∈ p.names ∨ x = name := by
  rcases register_cases p name kind with ⟨t, ht, heq⟩ | ⟨-, -, hnames, -⟩
  · have hmem : name ∈ p.names := h.exists_typeId?_iff.1 ⟨t, ht⟩
    rw [heq]
    exact ⟨.inl, fun hx => hx.elim id fun hx => hx ▸ hmem⟩
  · rw [hnames]
    simp

/-- A type stays what it is when a supertype is added somewhere, or it gets that supertype as its last
one. -/
theorem addSupertype_cases {type super : TypeId} {entry : TypeEntry}
    (h : (p.addSupertype type super).types[t]? = some entry) :
    ∃ before, p.types[t]? = some before ∧
      (entry = before ∨ super ∉ before.supertypes ∧
        entry = { before with supertypes := before.supertypes ++ [super] }) := by
  rw [addSupertype, List.getElem?_modify, Option.map_eq_map, Option.map_eq_some_iff] at h
  obtain ⟨before, hbefore, rfl⟩ := h
  refine ⟨before, hbefore, ?_⟩
  by_cases ht : type = t
  · by_cases hsuper : super ∈ before.supertypes
    · left
      rw [if_pos ht, if_pos hsuper]
    · right
      rw [if_pos ht, if_neg hsuper]
      exact ⟨hsuper, rfl⟩
  · left
    rw [if_neg ht]

theorem sameNames_addSupertype (p : Program) (type super : TypeId) :
    p.SameNames (p.addSupertype type super) := by
  refine ⟨rfl, List.ext_getElem? fun i => ?_⟩
  simp only [names, addSupertype, List.getElem?_map, List.getElem?_modify]
  by_cases h : type = i
  · cases p.types[i]? with
    | none => simp
    | some entry =>
        simp only [h, if_true, Option.map_eq_map, Option.map_some]
        split <;> rfl
  · simp [h]

end Program

end ModContracts
