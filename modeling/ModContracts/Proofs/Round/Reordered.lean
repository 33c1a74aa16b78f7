import ModContracts.Proofs.Round.Faults
import ModContracts.Proofs.Round.Renamed
import ModContracts.Proofs.Snapshot.Renamed

/-!
# The order of library types and of supertypes

A snapshot lists its library types, and the supertypes of each type, in some order. The order decides
the ids of the types and the order in which the types above another one are visited, but nothing that a
round or a listing says.

* `Snapshot.Reordered` — the same snapshot with these lists in another order;
* `Program.Renamed.round_eq`, `Program.Renamed.inspect_eq` — what is said about programs that are alike
  without any name being changed;
* `Snapshot.round_of_reordered` — the other order changes nothing.
-/

namespace ModContracts

/-! ## Other orders -/

/-- A library type with the same supertypes in some order. -/
structure TypeSpec.Reordered (spec spec' : TypeSpec) : Prop where
  name : spec'.name = spec.name
  supertypes : spec.supertypes.Perm spec'.supertypes

/-- A declaration with the same supertypes in some order, whatever is inside it. -/
structure DeclSpec.Reordered (spec spec' : DeclSpec) : Prop where
  supertypes : spec.supertypes.Perm spec'.supertypes
  /-- Everything else is the same. -/
  rest : spec' = { spec with supertypes := spec'.supertypes, members := spec'.members }

/-- A snapshot with the same library types in some order and with all lists of supertypes in some
order. The declarations stay where they are. -/
structure Snapshot.Reordered (s s' : Snapshot) : Prop where
  types : ∃ order, s.types.Perm order ∧ List.Forall₂ TypeSpec.Reordered order s'.types
  declarations : DeclSpec.Aligned DeclSpec.Reordered s.declarations s'.declarations

theorem TypeSpec.Reordered.renamed {spec spec' : TypeSpec} (h : spec.Reordered spec') :
    TypeSpec.Renamed id spec spec' where
  name := h.name
  supertypes := by
    rw [List.map_id]
    exact h.supertypes

theorem DeclSpec.Reordered.renamed {spec spec' : DeclSpec} (h : spec.Reordered spec')
    (profile : Profile) : DeclSpec.Renamed id profile spec spec' := by
  obtain ⟨hsupers, hrest⟩ := h
  rw [hrest]
  exact {
    spec.renamed_id profile with
    supertypes := by
      rw [List.map_id]
      exact hsupers }

/-- Another order is a renaming that changes no name. -/
theorem Snapshot.Reordered.renamed {s s' : Snapshot} (h : s.Reordered s') (profile : Profile) :
    s.Renamed id profile s' := by
  obtain ⟨order, horder, htypes⟩ := h.types
  refine ⟨⟨order, horder, ?_⟩, ?_⟩
  · exact htypes.imp fun _ _ hspec => hspec.renamed
  · exact h.declarations.mono fun _ _ hspec => hspec.renamed profile

/-! ## Programs that are alike -/

namespace Program.Renamed

variable {p p' : Program} {profile : Profile} (h : p.Renamed id profile p')
include h

/-- A round sees no ids of types. -/
theorem round_eq : round p' profile = round p profile := by
  have hcontexts := Context.ofProgram_alike (Profile.renaming_id profile) h
  have hround : ResultsAlike id (AgreeUnder id) (round p profile) (round p' profile) := by
    refine hcontexts.map fun cx cx' hcx => .of_eq ?_
    exact ((hcx.validate_alike typeRenaming_id).after_eq []).symm
  exact hround.eq_of_id.symm

/-- Neither does a listing. -/
theorem inspect_eq : inspect p' profile = inspect p profile := by
  have hcontexts := Context.ofProgram_alike (Profile.renaming_id profile) h
  have hinspect : ResultsAlike id (AgreeUnder id) (inspect p profile) (inspect p' profile) := by
    refine hcontexts.bind fun cx cx' hcx => ?_
    rw [(hcx.listings_alike typeRenaming_id).eq_of_id]
    cases cx'.listings with
    | ok listings => exact .ok (.refl _)
    | error fault => exact .error (.refl _)
  exact hinspect.eq_of_id.symm

end Program.Renamed

/-! ## Loaded snapshots -/

namespace Snapshot

/-- If a snapshot can be loaded, so can it with its library types and all lists of supertypes in another
order, and under every profile rounds and listings are the same. -/
theorem round_of_reordered {s s' : Snapshot} {p : Program} (hp : s.load = .ok p)
    (h : s.Reordered s') :
    ∃ p', s'.load = .ok p' ∧ ∀ profile : Profile,
      round p' profile = round p profile ∧ inspect p' profile = inspect p profile := by
  obtain ⟨p', hp'⟩ := ((h.renamed .default).exists_load_iff typeRenaming_id).2 ⟨p, hp⟩
  refine ⟨p', hp', fun profile => ?_⟩
  have halike : p.Renamed id profile p' := (h.renamed profile).load typeRenaming_id hp hp'
  exact ⟨halike.round_eq, halike.inspect_eq⟩

/-- An event of two kinds that can be cancelled, but is none of the framework's events. -/
def orderedExample : Snapshot where
  types := frameworkTypes .default ++ [{ name := "a.Left" }, { name := "a.Right" }]
  declarations := [{
    kind := .classType, name := "b.Example", supertypes := ["a.Left", "a.Right"]
    attachments := [{ type := Tag.cancelable.annotationName .default }] }]

/-- The same with all lists of types the other way round. -/
def turnedExample : Snapshot where
  types := orderedExample.types.reverse
  declarations := [{
    kind := .classType, name := "b.Example", supertypes := ["a.Right", "a.Left"]
    attachments := [{ type := Tag.cancelable.annotationName .default }] }]

theorem reordered_turnedExample : orderedExample.Reordered turnedExample where
  types := ⟨turnedExample.types, (List.reverse_perm _).symm,
    List.forall₂_same.2 fun _ _ => ⟨rfl, .refl _⟩⟩
  declarations := .cons ⟨.swap _ _ _, rfl⟩ .nil .nil

theorem exists_round_turnedExample :
    ∃ p p', orderedExample.load = .ok p ∧ turnedExample.load = .ok p' ∧
      p.typeId? "a.Left" = some 25 ∧ p'.typeId? "a.Left" = some 12 ∧
      round p' .default = round p .default ∧ inspect p' .default = inspect p .default := by
  have hload : (orderedExample.load.toOption.map (·.typeId? "a.Left")) = some (some 25) := by
    decide +kernel
  have hload' : (turnedExample.load.toOption.map (·.typeId? "a.Left")) = some (some 12) := by
    decide +kernel
  obtain ⟨p, hp, hleft⟩ := Option.map_eq_some_iff.1 hload
  have hp := toOption_eq_some_iff.1 hp
  obtain ⟨p', hp', hrounds⟩ := round_of_reordered hp reordered_turnedExample
  have hleft' : p'.typeId? "a.Left" = some 12 := by
    rw [hp'] at hload'
    exact Option.some.inj hload'
  exact ⟨p, p', hp, hp', hleft, hleft', hrounds .default⟩

end Snapshot

end ModContracts
