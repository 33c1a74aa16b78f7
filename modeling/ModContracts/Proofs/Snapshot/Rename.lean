import ModContracts.Proofs.Snapshot.Aligned

/-!
# Renaming the types of a snapshot

A renaming is applied to every type name that a snapshot writes: library types, supertypes, the names of
type declarations, the types of fields, parameters and results, annotation types, class literals and
annotations inside values. The sides of a proxy name their classes in strings, which are renamed as well.
All other strings and the names of members stay.

* `ValueSpec.rename`, `AttachmentSpec.rename`, `DeclSpec.rename`, `Snapshot.rename` — the renaming;
* `AttachmentSpec.str?_rename` — the strings of an annotation;
* `Snapshot.renamed_rename` — the renamed snapshot describes the same declarations.
-/

namespace ModContracts

/-! ## Values -/

namespace ValueSpec

mutual

/-- A value under other names of types. -/
def rename (ρ : String → String) : ValueSpec → ValueSpec
  | .bool b => .bool b
  | .int i => .int i
  | .str s => .str s
  | .classLiteral name => .classLiteral (ρ name)
  | .nested type values location? valueLocations =>
    .nested (ρ type) (renameEntries ρ values) location? valueLocations
  | .list items => .list (renameItems ρ items)

/-- The items of a list under other names of types. -/
def renameItems (ρ : String → String) : List ValueSpec → List ValueSpec
  | [] => []
  | spec :: rest => rename ρ spec :: renameItems ρ rest

/-- Entries under other names of types. -/
def renameEntries (ρ : String → String) : List (String × ValueSpec) → List (String × ValueSpec)
  | [] => []
  | (name, spec) :: rest => (name, rename ρ spec) :: renameEntries ρ rest

end

/-- The value of a side of a proxy: a string names a class. -/
def renameSide (ρ : String → String) : ValueSpec → ValueSpec
  | .str name => .str (ρ name)
  | spec => spec.rename ρ

variable {ρ : String → String}

mutual

theorem typeNames_rename : ∀ spec : ValueSpec, (spec.rename ρ).typeNames = spec.typeNames.map ρ
  | .bool _ => rfl
  | .int _ => rfl
  | .str _ => rfl
  | .classLiteral _ => rfl
  | .nested type values _ _ => by
      rw [rename, typeNames, typeNames, List.map_cons, typeNamesOfEntries_rename values]
  | .list items => by
      rw [rename, typeNames, typeNames, typeNamesOfItems_rename items]

theorem typeNamesOfItems_rename : ∀ specs : List ValueSpec,
    typeNamesOfItems (renameItems ρ specs) = (typeNamesOfItems specs).map ρ
  | [] => rfl
  | spec :: rest => by
      rw [renameItems, typeNamesOfItems, typeNamesOfItems, List.map_append, typeNames_rename spec,
        typeNamesOfItems_rename rest]

theorem typeNamesOfEntries_rename : ∀ specs : List (String × ValueSpec),
    typeNamesOfEntries (renameEntries ρ specs) = (typeNamesOfEntries specs).map ρ
  | [] => rfl
  | (_, spec) :: rest => by
      rw [renameEntries, typeNamesOfEntries, typeNamesOfEntries, List.map_append,
        typeNames_rename spec, typeNamesOfEntries_rename rest]

end

theorem str?_rename (spec : ValueSpec) : (spec.rename ρ).str? = spec.str? := by
  cases spec <;> rfl

theorem typeNames_renameSide (spec : ValueSpec) :
    (spec.renameSide ρ).typeNames = spec.typeNames.map ρ := by
  cases spec with
  | str name => rfl
  | _ => exact typeNames_rename _

theorem str?_renameSide (spec : ValueSpec) : (spec.renameSide ρ).str? = spec.str?.map ρ := by
  cases spec <;> rfl

end ValueSpec

/-! ## Annotations -/

theorem Keyed.find?_map_values {κ α β : Type} [DecidableEq κ] (f : κ → α → β) (xs : Keyed κ α) (key : κ) :
    Keyed.find? (xs.map fun entry => (entry.1, f entry.1 entry.2)) key = (xs.find? key).map (f key) := by
  induction xs with
  | nil => rfl
  | cons entry rest ih =>
      obtain ⟨k, v⟩ := entry
      rw [List.map_cons, find?, find?]
      by_cases hk : k = key
      · rw [if_pos hk, if_pos hk, hk]
        rfl
      · rw [if_neg hk, if_neg hk, ih]

namespace AttachmentSpec

variable {ρ : String → String} {profile : Profile}

/-- A value of an annotation names a class of a proxy. -/
def NamesSide (profile : Profile) (spec : AttachmentSpec) (name : String) : Prop :=
  spec.type = Tag.sidedProxy.annotationName profile ∧ name ∈ Context.proxySides

instance decidableNamesSide (profile : Profile) (spec : AttachmentSpec) (name : String) :
    Decidable (spec.NamesSide profile name) :=
  inferInstanceAs (Decidable (_ ∧ _))

/-- An annotation under other names of types. -/
def rename (ρ : String → String) (profile : Profile) (spec : AttachmentSpec) : AttachmentSpec :=
  { spec with
    type := ρ spec.type
    values := spec.values.map fun entry => (entry.1,
      if spec.NamesSide profile entry.1 then entry.2.renameSide ρ else entry.2.rename ρ) }

theorem typeNames_rename (spec : AttachmentSpec) :
    (spec.rename ρ profile).typeNames = spec.typeNames.map ρ := by
  unfold typeNames rename
  rw [List.map_cons]
  refine congrArg (ρ spec.type :: ·) ?_
  generalize spec.values = values
  induction values with
  | nil => rfl
  | cons entry rest ih =>
      rw [List.map_cons, ValueSpec.typeNamesOfEntries, ValueSpec.typeNamesOfEntries,
        List.map_append, ih]
      congr 1
      split
      case isTrue => exact entry.2.typeNames_renameSide
      case isFalse => exact entry.2.typeNames_rename

/-- Only the strings that name a class of a proxy are renamed. -/
theorem str?_rename (spec : AttachmentSpec) (name : String) :
    (spec.rename ρ profile).str? name =
      if spec.NamesSide profile name then (spec.str? name).map ρ else spec.str? name := by
  unfold str? rename
  rw [Keyed.find?_map_values fun name (value : ValueSpec) =>
    if spec.NamesSide profile name then value.renameSide ρ else value.rename ρ]
  cases Keyed.find? spec.values name with
  | none => simp
  | some value =>
      rw [Option.map_some, Option.bind_some, Option.bind_some]
      split
      case isTrue => exact value.str?_renameSide
      case isFalse => exact value.str?_rename

theorem renamed_rename (spec : AttachmentSpec) :
    AttachmentSpec.Renamed ρ profile spec (spec.rename ρ profile) where
  type := rfl
  typeNames := spec.typeNames_rename
  value := by
    have hother : ¬ spec.NamesSide profile "value" := fun hside => absurd hside.2 (by decide)
    rw [str?_rename, if_neg hother]
  sides htype side hside := by
    rw [str?_rename, if_pos ⟨htype, hside⟩]

end AttachmentSpec

/-! ## Declarations -/

/-- A library type under other names. -/
def TypeSpec.rename (ρ : String → String) (spec : TypeSpec) : TypeSpec where
  name := ρ spec.name
  supertypes := spec.supertypes.map ρ

namespace DeclSpec

variable {ρ : String → String} {profile : Profile}

mutual

/-- A declaration and everything in it under other names of types. -/
def rename (ρ : String → String) (profile : Profile) : DeclSpec → DeclSpec
  | ⟨kind, name, modifiers, supertypes, type?, parameters, returns?, attachments, members,
      location?⟩ =>
    ⟨kind, if kind.isType then ρ name else name, modifiers, supertypes.map ρ, type?.map ρ,
      parameters.map ρ, returns?.map ρ, attachments.map (AttachmentSpec.rename ρ profile),
      renameAll ρ profile members, location?⟩

/-- Some declarations under other names of types. -/
def renameAll (ρ : String → String) (profile : Profile) : List DeclSpec → List DeclSpec
  | [] => []
  | spec :: rest => rename ρ profile spec :: renameAll ρ profile rest

end

theorem members_rename (spec : DeclSpec) :
    (spec.rename ρ profile).members = renameAll ρ profile spec.members := by
  cases spec
  rfl

theorem renamed_rename (spec : DeclSpec) :
    DeclSpec.Renamed ρ profile spec (spec.rename ρ profile) := by
  obtain ⟨kind, name, modifiers, supertypes, type?, parameters, returns?, attachments, members,
    location?⟩ := spec
  rw [rename]
  refine ⟨rfl, rfl, rfl, .refl _, rfl, rfl, rfl, ?_⟩
  rw [List.forall₂_map_right_iff, List.forall₂_same]
  exact fun attachment _ => attachment.renamed_rename

theorem aligned_renameAll (specs : List DeclSpec) :
    Aligned (DeclSpec.Renamed ρ profile) specs (renameAll ρ profile specs) := by
  induction specs using forest_induction with
  | nil => exact .nil
  | cons spec rest ihMembers ihRest =>
      refine .cons spec.renamed_rename ?_ ihRest
      rw [members_rename]
      exact ihMembers

end DeclSpec

/-! ## Snapshots -/

namespace Snapshot

/-- A snapshot under other names of types. -/
def rename (ρ : String → String) (profile : Profile) (s : Snapshot) : Snapshot where
  types := s.types.map (TypeSpec.rename ρ)
  declarations := DeclSpec.renameAll ρ profile s.declarations

/-- The renamed snapshot describes the same declarations. -/
theorem renamed_rename (ρ : String → String) (profile : Profile) (s : Snapshot) :
    s.Renamed ρ profile (s.rename ρ profile) where
  types := by
    refine ⟨s.types, .refl _, ?_⟩
    change List.Forall₂ (TypeSpec.Renamed ρ) s.types (s.types.map (TypeSpec.rename ρ))
    rw [List.forall₂_map_right_iff, List.forall₂_same]
    exact fun _ _ => ⟨rfl, .refl _⟩
  declarations := DeclSpec.aligned_renameAll s.declarations

end Snapshot

end ModContracts
