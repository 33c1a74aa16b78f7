import ModContracts.Round
import ModContracts.Proofs.Facts
import ModContracts.Proofs.Framework
import ModContracts.Proofs.Program.Carriers

/-!
# The pairs of a round

Over any program that edits lead to, a round takes exactly the pairs of a tag and a declaration that
carries it. It takes a pair again for every time the declaration is listed with the carriers of the
tag, which is more than once when attachments to several declarations are interleaved.

* `Context.pairsOf`, `Context.pairs_split` — the pairs of one tag, and of some tags before others;
* `Context.mem_tagged_iff`, `Context.nodup_pairs_iff` — the pairs, and whether one is repeated;
* `Program.carriers_of_applyAll` — which declarations edits list as carriers, and when each of them
  is listed and checked once;
* `Program.exists_checked_twice` — a declaration that is listed and checked twice.
-/

namespace ModContracts

namespace Context

variable {cx : Context} {tag : Tag} {d : DeclId}

/-- The pairs of one tag. -/
def pairsOf (cx : Context) (tag : Tag) : List (Tag × DeclId) :=
  (cx.tagged tag).map fun d => (tag, d)

/-- The pairs of the first tags, and then those of the others. -/
theorem pairs_split (cx : Context) (n : Nat) :
    cx.pairs = (Tag.all.take n).flatMap cx.pairsOf ++ (Tag.all.drop n).flatMap cx.pairsOf := by
  rw [← List.flatMap_append, List.take_append_drop]
  rfl

theorem tag_of_mem_pairsOf {tags : List Tag} {pair : Tag × DeclId}
    (h : pair ∈ tags.flatMap cx.pairsOf) : pair.1 ∈ tags := by
  obtain ⟨tag, hmem, hpair⟩ := List.mem_flatMap.1 h
  obtain ⟨d, -, rfl⟩ := List.mem_map.1 hpair
  exact hmem

theorem mem_pairs_iff : (tag, d) ∈ cx.pairs ↔ d ∈ cx.tagged tag := by
  simp [pairs, Tag.mem_all]

/-- Pairs of different tags differ, so a pair is repeated when a declaration is repeated under a
tag. -/
theorem nodup_pairs_iff : cx.pairs.Nodup ↔ ∀ tag, (cx.tagged tag).Nodup := by
  have hdisjoint : Tag.all.Pairwise fun tag other =>
      List.Disjoint ((cx.tagged tag).map fun d => (tag, d))
        ((cx.tagged other).map fun d => (other, d)) := by
    refine Tag.nodup_all.imp fun hne pair hpair hother => ?_
    obtain ⟨d, -, rfl⟩ := List.mem_map.1 hpair
    obtain ⟨e, -, heq⟩ := List.mem_map.1 hother
    exact hne (Prod.mk.inj heq).1.symm
  have hpair (tag : Tag) : Function.Injective fun d : DeclId => (tag, d) :=
    fun _ _ heq => (Prod.mk.inj heq).2
  rw [pairs, List.nodup_flatMap, and_iff_left hdisjoint]
  simp only [Tag.mem_all, true_imp_iff, List.nodup_map_iff (hpair _)]

/-- A tag whose annotation type is known stands for the carriers of that type. -/
theorem mem_tagged_iff (hp : cx.program.Attached) (hcx : cx.Resolved) :
    d ∈ cx.tagged tag ↔ cx.program.Carries cx.framework.profile d tag := by
  rw [Program.carries_iff, tagged, hcx.tagType]
  cases cx.program.typeId? (tag.annotationName cx.framework.profile) with
  | none => simp
  | some type => exact hp.mem_carriersOf_iff_wears

theorem nodup_tagged_iff (hcx : cx.Resolved) :
    (cx.tagged tag).Nodup ↔
      ∀ type, cx.program.typeId? (tag.annotationName cx.framework.profile) = some type →
        (cx.program.carriersOf type).Nodup := by
  rw [tagged, hcx.tagType]
  cases cx.program.typeId? (tag.annotationName cx.framework.profile) <;> simp

end Context

namespace Program

/-- Over any program that edits lead to, the declarations that carry an annotation type are listed
for it, and nothing else is; a round takes the pairs of a tag and a declaration that carries it.
Each declaration is listed once exactly when no attachment of the type went to another declaration
between two that went to the same one, and each pair is taken once exactly when that is so for the
annotation types of all tags. -/
theorem carriers_of_applyAll {edits : List Edit} {p : Program}
    (h : Program.initial.applyAll edits = some p) :
    (∀ type d, d ∈ p.carriersOf type ↔ p.hasAttachment d type = .ok true) ∧
    (∀ type, (p.carriersOf type).Nodup ↔
      ∀ d e, d ≠ e → ¬ [d, e, d].Sublist (p.ownersOf type)) ∧
    ∀ (profile : Profile) (cx : Context), Context.ofProgram p profile = .ok cx →
      (∀ (tag : Tag) (d : DeclId), (tag, d) ∈ cx.pairs ↔ p.Carries profile d tag) ∧
      (cx.pairs.Nodup ↔
        ∀ (tag : Tag) (type : TypeId), p.typeId? (tag.annotationName profile) = some type →
          ∀ d e, d ≠ e → ¬ [d, e, d].Sublist (p.ownersOf type)) := by
  have hp := (built_of_applyAll h).attached
  refine ⟨fun type d => hp.mem_carriersOf_iff, fun type => hp.nodup_carriersOf_iff, ?_⟩
  intro profile cx hcx
  obtain ⟨rfl, rfl, hresolved⟩ := Context.ofProgram_eq_ok_iff.1 hcx
  refine ⟨fun tag d => ?_, ?_⟩
  · rw [Context.mem_pairs_iff, Context.mem_tagged_iff hp hresolved]
  · simp only [Context.nodup_pairs_iff, Context.nodup_tagged_iff hresolved,
      hp.nodup_carriersOf_iff]

/-- Two event classes. The first is made cancelable, then the second, then the first once more. -/
def interleavedExample : List Edit :=
  [Profile.default.fmlEvent, Profile.default.event, Profile.default.modMetadata,
    Profile.default.side, Tag.cancelable.annotationName .default].map (.declareType · []) ++
  [.declareClass none "a.First" [12] (.ofList [.isPublic]),
    .declareClass none "a.Second" [12] (.ofList [.isPublic]),
    .attach 0 15 [], .attach 1 15 [], .attach 0 15 []]

theorem exists_carriers_interleavedExample :
    ∃ p, Program.initial.applyAll interleavedExample = some p ∧
      (∀ type d, d ∈ p.carriersOf type ↔ p.hasAttachment d type = .ok true) ∧
      ¬ (p.carriersOf 15).Nodup ∧ [0, 1, 0].Sublist (p.ownersOf 15) := by
  have howners : (Program.initial.applyAll interleavedExample).map
      (fun p => (p.carriersOf 15, p.ownersOf 15)) = some ([0, 1, 0], [0, 1, 0]) := by
    decide +kernel
  obtain ⟨p, hp, heq⟩ := Option.map_eq_some_iff.1 howners
  obtain ⟨hcarriers, howners⟩ := Prod.mk.inj heq
  obtain ⟨hmem, hnodup, -⟩ := carriers_of_applyAll hp
  refine ⟨p, hp, hmem, fun h => ?_, ?_⟩
  · exact (hnodup 15).1 h 0 1 (by decide) (by rw [howners])
  · rw [howners]

/-- A declaration can be listed twice for an annotation type that it carries, and then a round checks
it twice: three pairs although two declarations carry the tag. -/
theorem exists_checked_twice :
    ∃ p, Program.initial.applyAll interleavedExample = some p ∧
      p.hasAttachment 0 15 = .ok true ∧ (p.carriersOf 15).count 0 = 2 ∧
      ∃ cx, Context.ofProgram p .default = .ok cx ∧
        cx.validate.after [] = (.ok { tags := 1, checked := 3 }, []) := by
  have hrun : (Program.initial.applyAll interleavedExample).any (fun p =>
      p.hasAttachment 0 15 = .ok true && (p.carriersOf 15).count 0 = 2 &&
        (round p .default).toOption = some (.ok { tags := 1, checked := 3 }, [])) = true := by
    decide +kernel
  obtain ⟨p, hp, hfacts⟩ := (Option.any_eq_true _ _).1 hrun
  simp only [Bool.and_eq_true, decide_eq_true_eq] at hfacts
  obtain ⟨⟨hcarried, hcount⟩, hround⟩ := hfacts
  obtain ⟨cx, hcx, hvalidate⟩ := map_eq_ok_iff.1 (toOption_eq_some_iff.1 hround)
  exact ⟨p, hp, hcarried, hcount, cx, hcx, hvalidate⟩

end Program

end ModContracts
