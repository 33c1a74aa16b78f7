import ModContracts.Snapshot.Load
import ModContracts.Proofs.Results

/-!
# What written names and values stand for

Loading looks up the type names that a snapshot writes and turns written values into values. Both
are described here by relations that read nothing of a program but the ids of its type names.

* `StandFor` — names and the types they stand for, position by position;
* `ValueSpec.Means`, `AttachmentSpec.Means` — a written value or annotation and what it becomes;
* `ValueSpec.load_eq_ok_iff` — loading a value computes what it means;
* `ValueSpec.typeNames`, `AttachmentSpec.typeNames` — the type names written anywhere in a value;
* `ValueSpec.exists_means_iff` — a value means something exactly when its type names are known.
-/

namespace ModContracts

/-! ## Names -/

/-- The ids of type names, as a program knows them. -/
abbrev TypeIds := String → Option TypeId

/-- Names stand for types, position by position. -/
def StandFor (ids : TypeIds) (names : List String) (types : List TypeId) : Prop :=
  List.Forall₂ (fun name t => ids name = some t) names types

/-- Every one of some names stands for a type. -/
def Resolve (ids : TypeIds) (names : List String) : Prop :=
  ∀ name ∈ names, ∃ t, ids name = some t

section Names

variable {ids : TypeIds} {name : String} {names others : List String} {p : Program}

@[simp] theorem resolve_nil : Resolve ids [] := by
  simp [Resolve]

@[simp] theorem resolve_cons :
    Resolve ids (name :: names) ↔ (∃ t, ids name = some t) ∧ Resolve ids names := by
  simp [Resolve]

@[simp] theorem resolve_append :
    Resolve ids (names ++ others) ↔ Resolve ids names ∧ Resolve ids others :=
  List.forall_mem_append

theorem exists_standFor_iff : (∃ types, StandFor ids names types) ↔ Resolve ids names :=
  exists_forall₂_iff

theorem Program.resolve_eq_ok_iff {t : TypeId} :
    p.resolve name = .ok t ↔ p.typeId? name = some t := by
  unfold Program.resolve
  cases p.typeId? name <;> simp

theorem Program.mapM_resolve_eq_ok_iff {types : List TypeId} :
    names.mapM p.resolve = .ok types ↔ StandFor p.typeId? names types := by
  simp only [mapM_eq_ok_iff, Program.resolve_eq_ok_iff, StandFor]

end Names

/-! ## Values -/

namespace ValueSpec

mutual

/-- What a written value stands for. -/
def Means (ids : TypeIds) : ValueSpec → Value → Prop
  | .bool b, v => v = .bool b
  | .int i, v => v = .int i
  | .str s, v => v = .str s
  | .classLiteral name, v => ∃ t, ids name = some t ∧ v = .type t
  | .nested type values _ _, v =>
    ∃ t entries, ids type = some t ∧ EntriesMean ids values entries ∧ v = .nested t entries
  | .list items, v => ∃ vs, ItemsMean ids items vs ∧ v = .list vs

/-- What the items of a written list stand for, in their order. -/
def ItemsMean (ids : TypeIds) : List ValueSpec → List Value → Prop
  | [], vs => vs = []
  | spec :: rest, vs => ∃ v ws, Means ids spec v ∧ ItemsMean ids rest ws ∧ vs = v :: ws

/-- What written entries stand for, under their names and in their order. -/
def EntriesMean (ids : TypeIds) : List (String × ValueSpec) → List (String × Value) → Prop
  | [], es => es = []
  | (name, spec) :: rest, es =>
    ∃ v ws, Means ids spec v ∧ EntriesMean ids rest ws ∧ es = (name, v) :: ws

end

mutual

/-- The type names written anywhere in a value, annotation types included. -/
def typeNames : ValueSpec → List String
  | .bool _ | .int _ | .str _ => []
  | .classLiteral name => [name]
  | .nested type values _ _ => type :: typeNamesOfEntries values
  | .list items => typeNamesOfItems items

/-- The type names written in the items of a list. -/
def typeNamesOfItems : List ValueSpec → List String
  | [] => []
  | spec :: rest => typeNames spec ++ typeNamesOfItems rest

/-- The type names written in entries. -/
def typeNamesOfEntries : List (String × ValueSpec) → List String
  | [] => []
  | (_, spec) :: rest => typeNames spec ++ typeNamesOfEntries rest

end

section Loading

variable {p : Program}

mutual

/-- Loading a value computes what it means. -/
theorem load_eq_ok_iff : ∀ (spec : ValueSpec) (v : Value),
    load p spec = .ok v ↔ Means p.typeId? spec v
  | .bool b, v => by simp [load, Means, eq_comm]
  | .int i, v => by simp [load, Means, eq_comm]
  | .str s, v => by simp [load, Means, eq_comm]
  | .classLiteral name, v => by
      simp only [load, Means, map_eq_ok_iff, Program.resolve_eq_ok_iff, eq_comm (a := v)]
  | .nested type values _ _, v => by
      simp only [load, Means, bind_eq_ok_iff, Program.resolve_eq_ok_iff, pure_eq_ok_iff,
        loadEntries_eq_ok_iff values, eq_comm (a := v)]
      constructor
      · intro h
        obtain ⟨t, ht, entries, hentries, rfl⟩ := h
        exact ⟨t, entries, ht, hentries, rfl⟩
      · intro h
        obtain ⟨t, entries, ht, hentries, rfl⟩ := h
        exact ⟨t, ht, entries, hentries, rfl⟩
  | .list items, v => by
      simp only [load, Means, map_eq_ok_iff, loadItems_eq_ok_iff items, eq_comm (a := v)]

theorem loadItems_eq_ok_iff : ∀ (specs : List ValueSpec) (vs : List Value),
    loadItems p specs = .ok vs ↔ ItemsMean p.typeId? specs vs
  | [], vs => by simp [loadItems, ItemsMean, eq_comm]
  | spec :: rest, vs => by
      simp only [loadItems, ItemsMean, bind_eq_ok_iff, pure_eq_ok_iff, load_eq_ok_iff spec,
        loadItems_eq_ok_iff rest, eq_comm (a := vs)]
      constructor
      · intro h
        obtain ⟨v, hv, ws, hws, rfl⟩ := h
        exact ⟨v, ws, hv, hws, rfl⟩
      · intro h
        obtain ⟨v, ws, hv, hws, rfl⟩ := h
        exact ⟨v, hv, ws, hws, rfl⟩

theorem loadEntries_eq_ok_iff : ∀ (specs : List (String × ValueSpec)) (es : List (String × Value)),
    loadEntries p specs = .ok es ↔ EntriesMean p.typeId? specs es
  | [], es => by simp [loadEntries, EntriesMean, eq_comm]
  | (name, spec) :: rest, es => by
      simp only [loadEntries, EntriesMean, bind_eq_ok_iff, pure_eq_ok_iff, load_eq_ok_iff spec,
        loadEntries_eq_ok_iff rest, eq_comm (a := es)]
      constructor
      · intro h
        obtain ⟨v, hv, ws, hws, rfl⟩ := h
        exact ⟨v, ws, hv, hws, rfl⟩
      · intro h
        obtain ⟨v, ws, hv, hws, rfl⟩ := h
        exact ⟨v, hv, ws, hws, rfl⟩

end

end Loading

section Known

variable {ids : TypeIds}

mutual

/-- A value means something exactly when the type names in it are known. -/
theorem exists_means_iff : ∀ spec : ValueSpec,
    (∃ v, Means ids spec v) ↔ Resolve ids spec.typeNames
  | .bool b => by simp [Means, typeNames]
  | .int i => by simp [Means, typeNames]
  | .str s => by simp [Means, typeNames]
  | .classLiteral name => by
      rw [typeNames, resolve_cons]
      constructor
      · intro h
        obtain ⟨_, t, ht, -⟩ := h
        exact ⟨⟨t, ht⟩, resolve_nil⟩
      · intro h
        obtain ⟨⟨t, ht⟩, -⟩ := h
        exact ⟨.type t, t, ht, rfl⟩
  | .nested type values _ _ => by
      rw [typeNames, resolve_cons, ← exists_entriesMean_iff values]
      constructor
      · intro h
        obtain ⟨_, t, entries, ht, hentries, -⟩ := h
        exact ⟨⟨t, ht⟩, entries, hentries⟩
      · intro h
        obtain ⟨⟨t, ht⟩, entries, hentries⟩ := h
        exact ⟨.nested t entries, t, entries, ht, hentries, rfl⟩
  | .list items => by
      rw [typeNames, ← exists_itemsMean_iff items]
      constructor
      · intro h
        obtain ⟨_, vs, hvs, -⟩ := h
        exact ⟨vs, hvs⟩
      · intro h
        obtain ⟨vs, hvs⟩ := h
        exact ⟨.list vs, vs, hvs, rfl⟩

theorem exists_itemsMean_iff : ∀ specs : List ValueSpec,
    (∃ vs, ItemsMean ids specs vs) ↔ Resolve ids (typeNamesOfItems specs)
  | [] => by simp [ItemsMean, typeNamesOfItems]
  | spec :: rest => by
      rw [typeNamesOfItems, resolve_append, ← exists_means_iff spec, ← exists_itemsMean_iff rest]
      constructor
      · intro h
        obtain ⟨_, v, ws, hv, hws, -⟩ := h
        exact ⟨⟨v, hv⟩, ws, hws⟩
      · intro h
        obtain ⟨⟨v, hv⟩, ws, hws⟩ := h
        exact ⟨v :: ws, v, ws, hv, hws, rfl⟩

theorem exists_entriesMean_iff : ∀ specs : List (String × ValueSpec),
    (∃ es, EntriesMean ids specs es) ↔ Resolve ids (typeNamesOfEntries specs)
  | [] => by simp [EntriesMean, typeNamesOfEntries]
  | (name, spec) :: rest => by
      rw [typeNamesOfEntries, resolve_append, ← exists_means_iff spec,
        ← exists_entriesMean_iff rest]
      constructor
      · intro h
        obtain ⟨_, v, ws, hv, hws, -⟩ := h
        exact ⟨⟨v, hv⟩, ws, hws⟩
      · intro h
        obtain ⟨⟨v, hv⟩, ws, hws⟩ := h
        exact ⟨(name, v) :: ws, v, ws, hv, hws, rfl⟩

end

end Known

end ValueSpec

/-! ## Annotations -/

namespace AttachmentSpec

/-- The type names written in an annotation: its own type, then those in its values. -/
def typeNames (spec : AttachmentSpec) : List String :=
  spec.type :: ValueSpec.typeNamesOfEntries spec.values

/-- What an annotation written on a declaration becomes. -/
structure Means (ids : TypeIds) (d : DeclId) (spec : AttachmentSpec) (attached : Attachment) :
    Prop where
  owner : attached.owner = d
  type : ids spec.type = some attached.type
  /-- The values are there under their names and in their order. -/
  values : ValueSpec.EntriesMean ids spec.values attached.values
  location : attached.location? = spec.location?
  valueLocations : attached.valueLocations = Keyed.ofList spec.valueLocations

/-- An annotation becomes something exactly when the type names in it are known. -/
theorem exists_means_iff {ids : TypeIds} {d : DeclId} {spec : AttachmentSpec} :
    (∃ attached, spec.Means ids d attached) ↔ Resolve ids spec.typeNames := by
  rw [typeNames, resolve_cons, ← ValueSpec.exists_entriesMean_iff]
  constructor
  · intro h
    obtain ⟨attached, h⟩ := h
    exact ⟨⟨_, h.type⟩, _, h.values⟩
  · intro h'
    obtain ⟨⟨t, ht⟩, values, hvalues⟩ := h'
    exact ⟨⟨d, t, values, spec.location?, Keyed.ofList spec.valueLocations⟩,
      ⟨rfl, ht, hvalues, rfl, rfl⟩⟩

end AttachmentSpec

end ModContracts
