import ModContracts.Proofs.Contract.Renamed
import ModContracts.Proofs.Framework
import ModContracts.Proofs.Round.Matched

/-!
# Rounds over renamed programs

A round over a program and a round over a renamed one, under a profile whose names are the renamed ones,
check the same pairs and go the same way.

* `Profile.Renaming` — a renaming that takes the names of one profile to those of another;
* `Context.ofProgram_alike` — the frameworks of both are there, or neither is;
* `Context.Renamed.pairs_eq`, `Context.Renamed.validate_alike` — the rounds;
* `Context.Renamed.listings_alike` — the listings.
-/

namespace ModContracts

/-- A renaming that takes the names that the rules derive from a profile to those of another one. -/
structure Profile.Renaming (ρ : String → String) (profile profile' : Profile) : Prop
    extends TypeRenaming ρ where
  annotation : ∀ tag : Tag, ρ (tag.annotationName profile) = tag.annotationName profile'
  fmlEvent : ρ profile.fmlEvent = profile'.fmlEvent
  event : ρ profile.event = profile'.event
  modMetadata : ρ profile.modMetadata = profile'.modMetadata
  side : ρ profile.side = profile'.side

/-- The renaming that changes no name takes every profile to itself. -/
theorem Profile.renaming_id (profile : Profile) : Profile.Renaming id profile profile :=
  ⟨typeRenaming_id, fun _ => rfl, rfl, rfl, rfl, rfl⟩

theorem Profile.Renaming.designated {ρ : String → String} {profile profile' : Profile}
    (h : Profile.Renaming ρ profile profile') (t : Designated) :
    ρ (t.typeName profile) = t.typeName profile' := by
  cases t with
  | fmlEvent => exact h.fmlEvent
  | event => exact h.event
  | modMetadata => exact h.modMetadata
  | side => exact h.side
  | string => exact h.builtin ⟨stringName, .declared, []⟩ (by decide)
  | void => exact h.builtin ⟨"void", .void, []⟩ (by decide)
  | boolean => exact h.builtin ⟨"boolean", .primitive .boolean, []⟩ (by decide)

open Check

section Frameworks

variable {ρ : String → String} {profile profile' : Profile} {p p' : Program}
  (hρ : Profile.Renaming ρ profile profile') (h : p.Renamed ρ profile p')
include hρ h

theorem Framework.require_alike (t : Designated) :
    ResultsAlike ρ (Program.Counterpart ρ p p') (require p profile t) (require p' profile' t) := by
  unfold require
  rw [← hρ.designated t]
  rcases rel_cases (h.typeId?_rel hρ.injective (t.typeName profile)) with
    ⟨hnone, hnone'⟩ | ⟨id, id', hsome, hsome', hid⟩
  · rw [hnone, hnone']
    exact .error ((AgreeUnder.rename _).map CheckFault.missingFrameworkType)
  · rw [hsome, hsome']
    exact .ok hid

/-- The framework of a program and that of a renamed one hold types that correspond, or the same
designated type is missing from both. -/
theorem Framework.resolve_alike :
    ResultsAlike ρ (fun f f' => Context.Renamed ρ ⟨p, f⟩ ⟨p', f'⟩) (resolve p profile)
      (resolve p' profile') := by
  have hrequire := require_alike hρ h
  refine (hrequire .fmlEvent).bind fun _ _ h₁ => (hrequire .event).bind fun _ _ h₂ => ?_
  refine (hrequire .modMetadata).bind fun _ _ h₃ => (hrequire .side).bind fun _ _ h₄ => ?_
  refine (hrequire .string).bind fun _ _ h₅ => (hrequire .void).bind fun _ _ h₆ => ?_
  refine (hrequire .boolean).bind fun _ _ h₇ => .ok ?_
  refine ⟨h, fun tag => ?_, fun ht => h.indexed.typeName_of_typeId? ht, fun t => ?_, fun tag => ?_⟩
  · have hrel := h.typeId?_rel hρ.injective (tag.annotationName profile)
    rwa [hρ.annotation tag] at hrel
  · cases t with
    | fmlEvent => exact h₁
    | event => exact h₂
    | modMetadata => exact h₃
    | side => exact h₄
    | string => exact h₅
    | void => exact h₆
    | boolean => exact h₇
  · exact (hρ.annotation tag).symm

theorem Context.ofProgram_alike :
    ResultsAlike ρ (Context.Renamed ρ) (ofProgram p profile) (ofProgram p' profile') :=
  (Framework.resolve_alike hρ h).map fun _ _ hcx => hcx

end Frameworks

namespace Context.Renamed

variable {ρ : String → String} {cx cx' : Context} (hρ : TypeRenaming ρ) (h : cx.Renamed ρ cx')
include h

/-! ## Pairs -/

theorem tagged_eq (tag : Tag) : cx'.tagged tag = cx.tagged tag := by
  unfold tagged
  rcases rel_cases (h.tagType tag) with ⟨hnone, hnone'⟩ | ⟨t, t', hsome, hsome', ht⟩
  · rw [hnone, hnone']
  · rw [hsome, hsome']
    exact h.program.carriersOf ht

theorem pairs_eq : cx'.pairs = cx.pairs := by
  unfold pairs
  simp only [h.tagged_eq]

theorem summary_eq : cx'.summary = cx.summary := by
  unfold summary
  simp only [h.tagged_eq, h.pairs_eq]

/-! ## Rounds and listings -/

include hρ

/-- Both rounds take the same pairs, and every one of them matches itself. -/
theorem pairMatched :
    List.Forall₂ (PairMatched ρ Eq Eq cx cx') cx.pairs cx'.pairs := by
  rw [h.pairs_eq, List.forall₂_same]
  exact fun pair _ => ⟨rfl, rfl, h.findMatched hρ pair.1 pair.2⟩

/-- A round goes the same way over a renamed program. -/
theorem validate_alike : Alike ρ Eq cx.validate cx'.validate :=
  ((h.matched hρ).validate (h.pairMatched hρ) h.summary_eq).alike

theorem listings_alike : ResultsAlike ρ (AgreeUnder ρ) cx.listings cx'.listings :=
  (h.matched hρ).listings (h.pairMatched hρ)

end Context.Renamed

end ModContracts
