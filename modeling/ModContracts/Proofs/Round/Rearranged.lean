import ModContracts.Proofs.Round.Faults
import ModContracts.Proofs.Round.Matched
import ModContracts.Proofs.Snapshot.Rearranged

/-!
# The order of top-level declarations

The order of the declarations at the top of a snapshot decides the ids of all declarations, attachments
and types, and the order in which a round takes its pairs. It does not decide whether the round goes
through, nor what it counts, nor what it finds: the same diagnostics come in another order.

* `Diagnostic.finding` — what a diagnostic says, wherever it is pinned;
* `Snapshot.MovedContexts` — contexts of rearranged snapshots; `Snapshot.MovedContexts.matched` — they
  match, with all tags;
* `Snapshot.MovedContexts.pairs_perm` — the pairs of both rounds, up to their order;
* `Snapshot.round_of_rearranged` — the rounds.
-/

namespace ModContracts

/-- What a diagnostic says, wherever it is pinned. -/
def Diagnostic.finding (d : Diagnostic) : Severity × Code × String :=
  (d.severity, d.code, d.message)

/-- Diagnostics that match say the same if no name is changed. -/
theorem Diagnostic.Matched.finding_eq {N : Anchor → Anchor → Prop} {report report' : Diagnostic}
    (h : Diagnostic.Matched id N report report') : report'.finding = report.finding := by
  obtain ⟨code, hsubject, hexpected, -⟩ := h
  rw [hsubject rfl, hexpected rfl]
  rfl

/-- Checks that match report the same if no name is changed. -/
theorem Check.Matched.map_finding {N : Anchor → Anchor → Prop} {α β : Type} {R : α → β → Prop}
    {c : Check α} {c' : Check β} (h : Check.Matched id N R c c') :
    c'.reported.map Diagnostic.finding = c.reported.map Diagnostic.finding := by
  obtain ⟨_, _, ds, ds', hyields, hyields', -, hreports⟩ := h
  rw [hyields.reported_eq, hyields'.reported_eq]
  clear hyields hyields'
  induction hreports with
  | nil => rfl
  | cons hfirst _ ih => rw [List.map_cons, List.map_cons, hfirst.finding_eq, ih]

namespace Snapshot

open Context

/-- Contexts of two loaded snapshots, the nodes of which are moved, under one profile. -/
structure MovedContexts (σ : Equiv.Perm Nat) (s s' : Snapshot) (cx cx' : Context) : Prop
    extends MovedLoad σ s s' cx.program cx'.program where
  profile : cx'.framework.profile = cx.framework.profile
  resolved : cx.Resolved
  resolved' : cx'.Resolved

/-- The designated types are there in both programs, or in neither. -/
theorem MovedLoad.exists_ofProgram_iff {σ : Equiv.Perm Nat} {s s' : Snapshot} {p p' : Program}
    (h : MovedLoad σ s s' p p') (profile : Profile) :
    (∃ cx', Context.ofProgram p' profile = .ok cx') ↔ ∃ cx, Context.ofProgram p profile = .ok cx := by
  rw [Context.exists_ofProgram_iff, Context.exists_ofProgram_iff]
  refine forall_congr' fun t => ?_
  have hrel := h.typesRenamed.typeId?_rel Function.injective_id (t.typeName profile)
  rcases rel_cases hrel with ⟨hnone, hnone'⟩ | ⟨_, _, hsome, hsome', -⟩
  · rw [id] at hnone'
    simp [hnone, hnone']
  · rw [id] at hsome'
    simp [hsome, hsome']

namespace MovedContexts

variable {σ : Equiv.Perm Nat} {s s' : Snapshot} {cx cx' : Context} (h : MovedContexts σ s s' cx cx')
include h

/-! ## Contexts -/

theorem tagType_rel (tag : Tag) :
    Option.Rel (Program.Counterpart id cx.program cx'.program) (cx.framework.tagType? tag)
      (cx'.framework.tagType? tag) := by
  rw [h.resolved.tagType, h.resolved'.tagType, h.profile]
  exact h.typesRenamed.typeId?_rel Function.injective_id _

/-- The first attachments of a tag on a declaration and on the moved one hold the same. -/
theorem findMatched (tag : Tag) (d : DeclId) :
    FindMatched id (fun _ _ => True) cx cx' tag d (σ d) := by
  unfold FindMatched findTag
  rcases rel_cases (h.tagType_rel tag) with ⟨hnone, hnone'⟩ | ⟨t, t', hsome, hsome', ht⟩
  · rw [hnone, hnone']
    exact .ok .none
  · rw [hsome, hsome']
    refine Program.findAttachment_alike ((h.attachmentsOf d).mono fun as as' has => ?_)
    refine has.imp fun a a' ha => ?_
    obtain ⟨attached, attached', hattached, hattached', htype, hvalues⟩ := ha
    have hvalue : attached.Matched id tag attached' :=
      ⟨fun _ => hvalues "value", fun _ side _ => by rw [hvalues, Option.map_id_apply]⟩
    unfold Program.ChoiceAlike
    rw [hattached, hattached']
    exact .ok ⟨h.typesRenamed.counterpart_eq_iff Function.injective_id htype ht,
      fun _ => ⟨attached, attached', hattached, hattached', hvalue, fun _ _ _ => trivial⟩⟩

/-- Contexts of rearranged snapshots match, wherever reports are pinned. -/
theorem matched : cx.Matched id (Program.Counterpart id cx.program cx'.program)
    (fun d d' => σ d = d') (fun _ _ => True) cx' where
  program := h.toMovedLoad.matched
  designated t := by
    have ht' := h.resolved'.designated t
    rw [h.profile] at ht'
    exact .of_typeId? h.typesRenamed.indexed h.typesRenamed.indexed' (h.resolved.designated t) ht'
  annotationName tag := by rw [h.profile, id]
  carries tag _ d d' hd := by
    subst hd
    exact (h.findMatched tag d).carries
  anchor _ _ := trivial

/-! ## Pairs -/

theorem tagged_perm (tag : Tag) : ((cx.tagged tag).map σ).Perm (cx'.tagged tag) := by
  unfold tagged
  rcases rel_cases (h.tagType_rel tag) with ⟨hnone, hnone'⟩ | ⟨t, t', hsome, hsome', ht⟩
  · rw [hnone, hnone']
    exact .refl _
  · rw [hsome, hsome']
    exact h.carriersOf_perm ht

/-- A round takes the pairs of the moved declarations, tag by tag. -/
theorem pairs_perm : (cx.pairs.map fun pair => (pair.1, σ pair.2)).Perm cx'.pairs := by
  rw [pairs, pairs, List.map_flatMap]
  refine List.Perm.flatMap_left _ fun tag _ => ?_
  have htagged := (h.tagged_perm tag).map fun d => (tag, d)
  simpa [Function.comp_def] using htagged

theorem summary_eq : cx'.summary = cx.summary := by
  have htagged (tag : Tag) : (cx'.tagged tag).isEmpty = (cx.tagged tag).isEmpty := by
    rw [← (h.tagged_perm tag).isEmpty_eq, List.isEmpty_map]
  have hpairs : cx'.pairs.length = cx.pairs.length := by
    rw [← h.pairs_perm.length_eq, List.length_map]
  unfold Context.summary
  simp only [htagged, hpairs]

/-! ## Rounds -/

theorem wellPlaced_iff : (∀ pair ∈ cx'.pairs, cx'.program.WellPlaced pair.1 pair.2) ↔
    ∀ pair ∈ cx.pairs, cx.program.WellPlaced pair.1 pair.2 := by
  have hiff (pair : Tag × DeclId) :
      cx'.program.WellPlaced pair.1 (σ pair.2) ↔ cx.program.WellPlaced pair.1 pair.2 :=
    h.toMovedLoad.matched.wellPlaced_iff rfl pair.1
  simp only [← h.pairs_perm.mem_iff, List.forall_mem_map, hiff]

/-- What pairs report on their own is the same up to the order of pairs. -/
theorem reported_perm :
    ((cx.pairs.flatMap fun pair => (cx.check pair.1 pair.2).reported).map
        Diagnostic.finding).Perm
      ((cx'.pairs.flatMap fun pair => (cx'.check pair.1 pair.2).reported).map
        Diagnostic.finding) := by
  have hpair (pair : Tag × DeclId) :
      (cx'.check pair.1 (σ pair.2)).reported.map Diagnostic.finding =
        (cx.check pair.1 pair.2).reported.map Diagnostic.finding :=
    (h.matched.check rfl (h.findMatched pair.1 pair.2)).map_finding
  have hpairs := h.pairs_perm.flatMap_right fun pair =>
    (cx'.check pair.1 pair.2).reported.map Diagnostic.finding
  rw [List.flatMap_map] at hpairs
  simpa only [List.map_flatMap, hpair] using hpairs

end MovedContexts

/-- A round over a well-formed program goes through when the designated types are there and all pairs
are well placed, and then keeps what the pairs report on their own. -/
theorem round_eq_ok_iff {p : Program} (hp : p.WellFormed) {profile : Profile}
    {summary : RoundSummary} {reports : Diagnostics} :
    round p profile = .ok (.ok summary, reports) ↔
      ∃ cx, Context.ofProgram p profile = .ok cx ∧
        (∀ pair ∈ cx.pairs, cx.program.WellPlaced pair.1 pair.2) ∧ summary = cx.summary ∧
        reports = cx.pairs.flatMap fun pair => (cx.check pair.1 pair.2).reported := by
  rw [round, map_eq_ok_iff]
  refine exists_congr fun cx => and_congr_right fun hcx => ?_
  obtain ⟨rfl, -, hresolved⟩ := Context.ofProgram_eq_ok_iff.1 hcx
  rw [Context.validate_eq_ok_iff hp hresolved, List.nil_append]

theorem exists_round_iff {p : Program} (hp : p.WellFormed) {profile : Profile} :
    (∃ summary reports, round p profile = .ok (.ok summary, reports)) ↔
      ∃ cx, Context.ofProgram p profile = .ok cx ∧
        ∀ pair ∈ cx.pairs, cx.program.WellPlaced pair.1 pair.2 := by
  simp only [round_eq_ok_iff hp]
  constructor
  · intro h
    obtain ⟨_, _, cx, hcx, hplaced, -, -⟩ := h
    exact ⟨cx, hcx, hplaced⟩
  · intro h
    obtain ⟨cx, hcx, hplaced⟩ := h
    exact ⟨_, _, cx, hcx, hplaced, rfl, rfl⟩

/-- A snapshot and the one with its top-level declarations in another order can be loaded together or
not at all. Under every profile a round over the one goes through if and only if a round over the other
does, and then the summaries are the same and the same findings are reported, each as often. -/
theorem round_of_rearranged {s s' : Snapshot} (h : s.Rearranged s') :
    ((∃ p', s'.load = .ok p') ↔ ∃ p, s.load = .ok p) ∧
    ∀ p p', s.load = .ok p → s'.load = .ok p' → ∀ profile : Profile,
      ((∃ summary reports, round p' profile = .ok (.ok summary, reports)) ↔
        ∃ summary reports, round p profile = .ok (.ok summary, reports)) ∧
      ∀ summary summary' reports reports', round p profile = .ok (.ok summary, reports) →
        round p' profile = .ok (.ok summary', reports') →
        summary' = summary ∧
          (reports.map Diagnostic.finding).Perm (reports'.map Diagnostic.finding) := by
  refine ⟨h.exists_load_iff, fun p p' hp hp' profile => ?_⟩
  obtain ⟨σ, hmoved⟩ := h.exists_moved
  have hload : MovedLoad σ s s' p p' := ⟨h.typesRenamed, hmoved, hp, hp'⟩
  have hwf := wellFormed_of_load hp
  have hwf' := wellFormed_of_load hp'
  have hcontexts {cx cx' : Context} (hcx : Context.ofProgram p profile = .ok cx)
      (hcx' : Context.ofProgram p' profile = .ok cx') : MovedContexts σ s s' cx cx' := by
    obtain ⟨rfl, rfl, hresolved⟩ := Context.ofProgram_eq_ok_iff.1 hcx
    obtain ⟨rfl, hprofile, hresolved'⟩ := Context.ofProgram_eq_ok_iff.1 hcx'
    exact ⟨hload, hprofile, hresolved, hresolved'⟩
  refine ⟨?_, ?_⟩
  · rw [exists_round_iff hwf, exists_round_iff hwf']
    constructor
    · intro h'
      obtain ⟨cx', hcx', hplaced'⟩ := h'
      obtain ⟨cx, hcx⟩ := (hload.exists_ofProgram_iff profile).1 ⟨cx', hcx'⟩
      exact ⟨cx, hcx, (hcontexts hcx hcx').wellPlaced_iff.1 hplaced'⟩
    · intro h
      obtain ⟨cx, hcx, hplaced⟩ := h
      obtain ⟨cx', hcx'⟩ := (hload.exists_ofProgram_iff profile).2 ⟨cx, hcx⟩
      exact ⟨cx', hcx', (hcontexts hcx hcx').wellPlaced_iff.2 hplaced⟩
  · intro summary summary' reports reports' h h'
    obtain ⟨cx, hcx, -, rfl, rfl⟩ := (round_eq_ok_iff hwf).1 h
    obtain ⟨cx', hcx', -, rfl, rfl⟩ := (round_eq_ok_iff hwf').1 h'
    exact ⟨(hcontexts hcx hcx').summary_eq, (hcontexts hcx hcx').reported_perm⟩

/-- A mod without a constructor, and the class of a proxy in it, which is an abstract mod. -/
def apartExample : Snapshot where
  types := frameworkTypes .default
  declarations := [{
      kind := .classType, name := "a.Example", modifiers := [.isPublic]
      attachments := [{ type := Tag.mod.annotationName .default }]
      members := [{
        kind := .field, name := "proxy", type? := some "b.Proxy", modifiers := [.isPublic]
        attachments := [{
          type := Tag.sidedProxy.annotationName .default
          values := [("clientSide", .str "b.Proxy"), ("serverSide", .str "c.Missing")] }] }] },
    { kind := .classType, name := "b.Proxy", modifiers := [.isPublic, .isAbstract]
      attachments := [{ type := Tag.mod.annotationName .default }]
      members := [{ kind := .constructor, name := "<init>", modifiers := [.isPublic] }] }]

/-- The same with the proxy class before the mod. -/
def apartTurned : Snapshot :=
  { apartExample with declarations := apartExample.declarations.reverse }

theorem rearranged_apartTurned : apartExample.Rearranged apartTurned :=
  ⟨rfl, (List.reverse_perm _).symm⟩

/-- The findings come in another order, but they are the same four. -/
theorem exists_round_apartExample :
    ∃ p p' summary reports reports', apartExample.load = .ok p ∧ apartTurned.load = .ok p' ∧
      round p .default = .ok (.ok summary, reports) ∧
      round p' .default = .ok (.ok summary, reports') ∧
      reports.map Diagnostic.code = [.missingConstructor, .isAbstract, .nonStatic, .notFound] ∧
      reports'.map Diagnostic.code = [.isAbstract, .missingConstructor, .nonStatic, .notFound] ∧
      (reports.map Diagnostic.finding).Perm (reports'.map Diagnostic.finding) := by
  obtain ⟨-, hrounds⟩ := round_of_rearranged rearranged_apartTurned
  have hrun : (apartExample.load.toOption.any fun p => (round p .default).toOption.any fun r =>
      r.1 = .ok { tags := 2, checked := 3 } &&
        r.2.map Diagnostic.code = [.missingConstructor, .isAbstract, .nonStatic, .notFound]) =
      true := by
    decide +kernel
  have hrun' : (apartTurned.load.toOption.any fun p => (round p .default).toOption.any fun r =>
      r.1 = .ok { tags := 2, checked := 3 } &&
        r.2.map Diagnostic.code = [.isAbstract, .missingConstructor, .nonStatic, .notFound]) =
      true := by
    decide +kernel
  obtain ⟨p, hp, hround⟩ := (Option.any_eq_true _ _).1 hrun
  obtain ⟨p', hp', hround'⟩ := (Option.any_eq_true _ _).1 hrun'
  obtain ⟨⟨_, reports⟩, hround, hfacts⟩ := (Option.any_eq_true _ _).1 hround
  obtain ⟨⟨_, reports'⟩, hround', hfacts'⟩ := (Option.any_eq_true _ _).1 hround'
  simp only [Bool.and_eq_true, decide_eq_true_eq] at hfacts hfacts'
  obtain ⟨rfl, hcodes⟩ := hfacts
  obtain ⟨rfl, hcodes'⟩ := hfacts'
  have hp := toOption_eq_some_iff.1 hp
  have hp' := toOption_eq_some_iff.1 hp'
  have hround := toOption_eq_some_iff.1 hround
  have hround' := toOption_eq_some_iff.1 hround'
  obtain ⟨-, hsame⟩ := hrounds p p' hp hp' .default
  obtain ⟨-, hfound⟩ := hsame _ _ _ _ hround hround'
  exact ⟨p, p', _, reports, reports', hp, hp', hround, hround', hcodes, hcodes', hfound⟩

end Snapshot

end ModContracts
