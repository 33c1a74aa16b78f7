import ModContracts.Proofs.Round.Faults

/-!
# What a clean round says

Each tag has a row: what it demands of the declarations that carry it, and what it advises. A round
that goes through reports no error exactly when every tagged declaration meets the demands of its
row, and nothing at all exactly when it follows the advice too.

* `Tag.Demands`, `Tag.Advises` — the rows;
* `Tag.met_iff` — the requirements of a tag are met when its row is;
* `Snapshot.round_clean_iff` — what is wrong with a program is what a round over it reports.
-/

namespace ModContracts

namespace Tag

/-- What a tag demands of a declaration that carries it. A round reports an error for everything
that is not so. -/
def Demands (p : Program) (profile : Profile) (d : DeclId) : Tag → Prop
  | .mod =>
    p.HasModifier d .isPublic ∧ ¬ p.HasModifier d .isAbstract ∧
      ((∃ o, p.StandsIn d o) → p.HasModifier d .isStatic) ∧ p.HasPlainConstructor d
  | .eventHandler =>
    p.HasModifier d .isPublic ∧ ¬ p.HasModifier d .isStatic ∧ p.Takes d [profile.fmlEvent] ∧
      p.Returns d "void"
  | .modInstance =>
    p.HasModifier d .isPublic ∧ p.HasModifier d .isStatic ∧ ¬ p.HasModifier d .isFinal ∧
      (p.NamesAnother profile d ∨ p.CanHoldOwner d)
  | .metadata =>
    p.HasModifier d .isPublic ∧ ¬ p.HasModifier d .isStatic ∧ ¬ p.HasModifier d .isFinal ∧
      ∃ metadata, p.typeId? profile.modMetadata = some metadata ∧ p.CanHold d metadata
  | .instanceFactory =>
    p.HasModifier d .isPublic ∧ p.HasModifier d .isStatic ∧ p.Takes d [] ∧ p.ReturnsOwner d ∧
      p.OnlyOneCarries profile d .instanceFactory
  | .sidedProxy =>
    p.HasModifier d .isPublic ∧ p.HasModifier d .isStatic ∧ ¬ p.HasModifier d .isFinal ∧
      p.ProxiesFit profile d
  | .subscribeEvent =>
    p.HasModifier d .isPublic ∧ ¬ p.HasModifier d .isStatic ∧ ¬ p.HasModifier d .isFinal ∧
      p.Takes d [profile.event]
  | .cancelable | .hasResult => p.IsA d profile.event
  | .networkCheckHandler =>
    p.HasModifier d .isPublic ∧ p.Returns d "boolean" ∧
      p.Takes d ["java.lang.String", profile.side]

/-- What a tag advises. A round reports a warning for everything that is not so. -/
def Advises (p : Program) (profile : Profile) (d : DeclId) : Tag → Prop
  | .eventHandler | .instanceFactory => p.OwnerCarries profile d .mod
  | .modInstance =>
    p.OwnerCarries profile d .mod ∧ (p.NamesAnother profile d ∨ p.IsOwnerType d)
  | .sidedProxy => p.OwnerCarries profile d .mod ∧ p.ProxiesKnown profile d
  | _ => True

/-- The requirements of a tag are met exactly when what it demands is so, and where advice is
denied, what it advises too. -/
theorem met_iff {p : Program} {profile : Profile} {d : DeclId} {deny : Bool} (tag : Tag) :
    (∀ r ∈ tag.contract, r.Met p profile d deny) ↔
      tag.Demands p profile d ∧ (deny = true → tag.Advises p profile d) := by
  -- the requirements in their order are the conjuncts of the row, errors and advice interleaved
  cases tag <;>
    simp only [contract, List.forall_mem_cons, Requirement.Met, modifierCode?, Demands, Advises,
      ← Program.onlyOneCarries_iff] <;>
    simp [Designated.typeName, stringName] <;> tauto

end Tag

/-! ## Rounds -/

/-- A round over pairs that are all well placed settles whether each declaration is as its tag
demands, and where advice is denied, as it advises too. -/
theorem Context.validate_settles {cx : Context} (hp : cx.program.WellFormed) (hcx : cx.Resolved)
    (hplaced : ∀ pair ∈ cx.pairs, cx.program.WellPlaced pair.1 pair.2) :
    ∃ ds, cx.validate.Yields (.ok cx.summary) ds ∧
      ∀ deny, Diagnostics.Clean deny ds ↔
        ∀ tag d, cx.program.Carries cx.framework.profile d tag →
          tag.Demands cx.program cx.framework.profile d ∧
            (deny = true → tag.Advises cx.program cx.framework.profile d) := by
  have hpair : ∀ pair ∈ cx.pairs, (cx.check pair.1 pair.2).Settles fun deny =>
      pair.1.Demands cx.program cx.framework.profile pair.2 ∧
        (deny = true → pair.1.Advises cx.program cx.framework.profile pair.2) := by
    rintro ⟨tag, d⟩ hmem
    have hcarries : cx.program.Carries cx.framework.profile d tag := by
      rwa [pairs_eq hp hcx, Program.mem_placements_iff] at hmem
    obtain ⟨decl, hdecl⟩ := hcarries.exists_declaration
    have hkind := (Program.wellPlaced_iff hdecl).1 (hplaced (tag, d) hmem)
    exact (check_settles hdecl hp hcx hcarries hkind).congr fun deny => tag.met_iff
  obtain ⟨ds, hyields, hclean⟩ := Check.Settles.forM hpair
  refine ⟨ds, ?_, fun deny => ?_⟩
  · unfold validate
    rw [← List.append_nil ds]
    exact hyields.bind (Check.yields_pure cx.summary)
  · refine (hclean deny).trans ?_
    simp only [pairs_eq hp hcx, Prod.forall, Program.mem_placements_iff]

namespace Snapshot

/-- A round over a loaded program that goes through reports no error exactly when every tagged
declaration is as its tag demands, and reports nothing exactly when it is as advised, too. -/
theorem round_clean_iff {s : Snapshot} {p : Program} {profile : Profile} {summary : RoundSummary}
    {ds : Diagnostics} (h : s.load = .ok p)
    (hround : round p profile = .ok (.ok summary, ds)) :
    (Status.ofDiagnostics ds false = .clean ↔
      ∀ tag d, p.Carries profile d tag → tag.Demands p profile d) ∧
    (Status.ofDiagnostics ds true = .clean ↔
      ∀ tag d, p.Carries profile d tag → tag.Demands p profile d ∧ tag.Advises p profile d) := by
  have hp := wellFormed_of_load h
  obtain ⟨cx, hcx, hvalidate⟩ := map_eq_ok_iff.1 hround
  obtain ⟨rfl, rfl, hresolved⟩ := Context.ofProgram_eq_ok_iff.1 hcx
  have hvalid : (cx.validate.after []).1 = .ok summary := by rw [hvalidate]
  have hplaced := Context.wellPlaced_of_validate hp hresolved hvalid
  obtain ⟨es, hyields, hclean⟩ := Context.validate_settles hp hresolved hplaced
  obtain rfl : es = ds := (Prod.mk.inj ((hyields []).symm.trans hvalidate)).2
  refine ⟨(hclean false).trans ?_, (hclean true).trans ?_⟩
  · simp
  · simp

/-- A mod class with a handler that misses its parameter and a proxy whose class is not known. -/
def handlerExample : Snapshot where
  types := frameworkTypes .default
  declarations := [{
    kind := .classType, name := "a.Example", modifiers := [.isPublic]
    attachments := [{ type := Tag.mod.annotationName .default }]
    members := [
      { kind := .constructor, name := "<init>", modifiers := [.isPublic] },
      { kind := .method, name := "init", modifiers := [.isPublic],
        attachments := [{ type := Tag.eventHandler.annotationName .default }] },
      { kind := .field, name := "proxy", modifiers := [.isPublic, .isStatic],
        type? := some "a.Example",
        attachments := [{ type := Tag.sidedProxy.annotationName .default,
                          values := [("clientSide", .str "a.Client")] }] }] }]

theorem exists_round_handlerExample :
    ∃ p summary ds, handlerExample.load = .ok p ∧ round p .default = .ok (.ok summary, ds) ∧
      (Status.ofDiagnostics ds false = .clean ↔
        ∀ tag d, p.Carries .default d tag → tag.Demands p .default d) ∧
      (Status.ofDiagnostics ds true = .clean ↔
        ∀ tag d, p.Carries .default d tag →
          tag.Demands p .default d ∧ tag.Advises p .default d) := by
  have hround : (handlerExample.load.toOption.bind fun p =>
      (round p .default).toOption.map fun result => result.1.isOk) = some true := by
    decide +kernel
  cases h : handlerExample.load with
  | error e => simp [h, Except.toOption] at hround
  | ok p =>
      rw [h] at hround
      cases hresult : round p .default with
      | error e => simp [hresult, Except.toOption] at hround
      | ok result =>
          obtain ⟨answer, ds⟩ := result
          cases answer with
          | error fault => simp [hresult, Except.toOption, Except.isOk, Except.toBool] at hround
          | ok summary => exact ⟨p, summary, ds, rfl, hresult, round_clean_iff h hresult⟩

end Snapshot

end ModContracts
