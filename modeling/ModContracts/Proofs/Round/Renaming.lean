import ModContracts.Proofs.Round.Faults
import ModContracts.Proofs.Round.Renamed
import ModContracts.Proofs.Snapshot.Rename
import ModContracts.Proofs.Snapshot.Renamed
import Mathlib.Logic.Equiv.Basic

/-!
# Rounds under another profile

The rules know no name but those they derive from the profile, the built-in ones and those of the boxes.
If a renaming takes the names of one profile to those of another one, a round over the renamed snapshot
under the other profile is the same round, up to the names in messages.

* `Context.StopsAt`, `Context.EndsLike` — where a round stops, and rounds that end the same way;
* `Context.Renamed.endsLike` — rounds over programs that are alike do;
* `Snapshot.round_of_rename` — a snapshot and the renamed one.
-/

namespace ModContracts

namespace Context

/-! ## How rounds end -/

/-- A round stops at the first declaration of a kind that the tag on it does not accept. -/
def StopsAt (cx : Context) (tag : Tag) (d : DeclId) : Prop :=
  ∃ before after, cx.pairs = before ++ (tag, d) :: after ∧
    (∀ pair ∈ before, cx.program.WellPlaced pair.1 pair.2) ∧ ¬ cx.program.WellPlaced tag d

/-- The outcome of a round is the fault at a declaration. -/
def FaultsAt (cx : Context) (tag : Tag) (d : DeclId) : Prop :=
  cx.StopsAt tag d ∧ ∃ kind name, cx.program.kindOf d = .ok kind ∧ cx.program.nameOf d = .ok name ∧
    (cx.validate.after []).1 = .error (.unexpectedTarget tag kind name)

/-- Two rounds go through with the same summary, or fault at the same declaration under the same tag. -/
def EndsLike (cx cx' : Context) : Prop :=
  (∃ summary, (cx.validate.after []).1 = .ok summary ∧ (cx'.validate.after []).1 = .ok summary) ∨
    ∃ tag d, cx.FaultsAt tag d ∧ cx'.FaultsAt tag d

variable {cx cx' : Context} {tag : Tag} {d : DeclId}

theorem FaultsAt.of_stopsAt (hp : cx.program.WellFormed) (hcx : cx.Resolved)
    (h : cx.StopsAt tag d) : cx.FaultsAt tag d := by
  obtain ⟨before, after, hpairs, hbefore, hmisplaced⟩ := h
  have hcarries := carries_of_mem_pairs hp hcx (show (tag, d) ∈ cx.pairs by rw [hpairs]; simp)
  obtain ⟨decl, hdecl⟩ := hcarries.exists_declaration
  have hkind : tag.accepts decl.kind = false := by
    rwa [Program.wellPlaced_iff hdecl, Bool.not_eq_true] at hmisplaced
  refine ⟨⟨before, after, hpairs, hbefore, hmisplaced⟩, decl.kind, decl.name,
    Program.kindOf_eq hdecl, Program.nameOf_eq hdecl, ?_⟩
  rw [validate_misplaced hp hcx hpairs hbefore hdecl hkind []]

/-- A round that does not stop anywhere goes through. -/
theorem validate_cases (hp : cx.program.WellFormed) (hcx : cx.Resolved) :
    (cx.validate.after []).1 = .ok cx.summary ∨ ∃ tag d, cx.StopsAt tag d := by
  by_cases hplaced : ∀ pair ∈ cx.pairs, cx.program.WellPlaced pair.1 pair.2
  · left
    rw [validate_yields hp hcx hplaced []]
  · right
    obtain ⟨before, ⟨tag, d⟩, after, hpairs, hbefore, hmisplaced⟩ := exists_first_not hplaced
    exact ⟨tag, d, before, after, hpairs, hbefore, hmisplaced⟩

namespace Renamed

variable {ρ : String → String} (h : cx.Renamed ρ cx') (hρ : TypeRenaming ρ)
include h hρ

theorem wellPlaced_iff : cx'.program.WellPlaced tag d ↔ cx.program.WellPlaced tag d :=
  (h.program.matched hρ).wellPlaced_iff rfl tag

theorem stopsAt (hstops : cx.StopsAt tag d) : cx'.StopsAt tag d := by
  obtain ⟨before, after, hpairs, hbefore, hmisplaced⟩ := hstops
  refine ⟨before, after, h.pairs_eq.trans hpairs, fun pair hpair => ?_, ?_⟩
  · exact (h.wellPlaced_iff hρ).2 (hbefore pair hpair)
  · exact mt (h.wellPlaced_iff hρ).1 hmisplaced

/-- Rounds over programs that are alike end the same way. -/
theorem endsLike (hp : cx.program.WellFormed) (hcx : cx.Resolved)
    (hp' : cx'.program.WellFormed) (hcx' : cx'.Resolved) : cx.EndsLike cx' := by
  rcases validate_cases hp hcx with houtcome | ⟨tag, d, hstops⟩
  · left
    obtain ⟨halike, -⟩ := h.validate_alike hρ [] [] .nil
    rw [houtcome] at halike
    refine ⟨cx.summary, houtcome, ?_⟩
    generalize (cx'.validate.after []).1 = outcome' at halike
    cases halike with
    | ok heq => rw [heq]
  · right
    exact ⟨tag, d, .of_stopsAt hp hcx hstops, .of_stopsAt hp' hcx' (h.stopsAt hρ hstops)⟩

end Renamed

end Context

/-! ## Loaded snapshots -/

namespace Snapshot

/-- If a renaming takes the names that the rules derive from one profile to those of another one, then a
snapshot and the renamed one can be loaded together or not at all. The designated types of the profiles
are there for both or for neither, and then the rounds end the same way and report the same violations
in the same places. -/
theorem round_of_rename {ρ : String → String} {profile profile' : Profile}
    (hρ : Profile.Renaming ρ profile profile') (s : Snapshot) :
    ((∃ p', (s.rename ρ profile).load = .ok p') ↔ ∃ p, s.load = .ok p) ∧
    ∀ p p', s.load = .ok p → (s.rename ρ profile).load = .ok p' →
      ((∃ cx', Context.ofProgram p' profile' = .ok cx') ↔
        ∃ cx, Context.ofProgram p profile = .ok cx) ∧
      ∀ cx cx', Context.ofProgram p profile = .ok cx → Context.ofProgram p' profile' = .ok cx' →
        cx.EndsLike cx' ∧
        List.Forall₂ (fun report report' : Diagnostic => report'.code = report.code ∧
            report'.severity = report.severity ∧ report'.anchor = report.anchor)
          (cx.validate.after []).2 (cx'.validate.after []).2 := by
  have hrename : s.Renamed ρ profile (s.rename ρ profile) := s.renamed_rename ρ profile
  refine ⟨hrename.exists_load_iff hρ.toTypeRenaming, fun p p' hp hp' => ?_⟩
  have halike : p.Renamed ρ profile p' := hrename.load hρ.toTypeRenaming hp hp'
  have hcontexts := Context.ofProgram_alike hρ halike
  refine ⟨hcontexts.exists_ok_iff, fun cx cx' hcx hcx' => ?_⟩
  rw [hcx, hcx'] at hcontexts
  obtain ⟨rfl, -, hresolved⟩ := Context.ofProgram_eq_ok_iff.1 hcx
  obtain ⟨rfl, -, hresolved'⟩ := Context.ofProgram_eq_ok_iff.1 hcx'
  cases hcontexts with
  | ok hrenamed =>
      refine ⟨hrenamed.endsLike hρ.toTypeRenaming (wellFormed_of_load hp) hresolved
        (wellFormed_of_load hp') hresolved', ?_⟩
      obtain ⟨-, hreports⟩ := hrenamed.validate_alike hρ.toTypeRenaming [] [] .nil
      exact hreports.imp fun _ _ hreport => ⟨hreport.code, hreport.severity, hreport.anchor⟩

/-- The names of one release for those of the other one, and another name for a class. -/
def releaseRenaming : String ≃ String :=
  (("a.Client", "b.Client") ::
      ((frameworkTypes Release.forge17.profile).map TypeSpec.name).zip
        ((frameworkTypes Release.forge18.profile).map TypeSpec.name)).foldr
    (fun names rest => (Equiv.swap names.1 names.2).trans rest) (Equiv.refl String)

theorem renaming_releaseRenaming :
    Profile.Renaming releaseRenaming Release.forge17.profile Release.forge18.profile where
  injective := releaseRenaming.injective
  builtin := by decide +kernel
  boxed q := by cases q <;> decide +kernel
  empty := by decide +kernel
  annotation tag := by cases tag <;> decide +kernel
  fmlEvent := by decide +kernel
  event := by decide +kernel
  modMetadata := by decide +kernel
  side := by decide +kernel

/-- A proxy whose classes do not fit the type of the field. One of them is renamed. -/
def proxyExample : Snapshot where
  types := frameworkTypes Release.forge17.profile ++ [{ name := "a.Client" }]
  declarations := [{
    kind := .classType, name := "a.Example"
    members := [{
      kind := .field, name := "proxy", type? := some "a.Example", modifiers := [.isPublic, .isStatic]
      attachments := [{
        type := Tag.sidedProxy.annotationName Release.forge17.profile
        values := [("clientSide", .str "a.Client"), ("serverSide", .str "a.Example")] }] }] }]

theorem exists_round_proxyExample :
    ∃ p p' cx cx', proxyExample.load = .ok p ∧
      (proxyExample.rename releaseRenaming Release.forge17.profile).load = .ok p' ∧
      Context.ofProgram p Release.forge17.profile = .ok cx ∧
      Context.ofProgram p' Release.forge18.profile = .ok cx' ∧ cx.EndsLike cx' ∧
      (cx.validate.after []).2.length = 3 ∧ (cx'.validate.after []).2.length = 3 := by
  obtain ⟨hloads, hrounds⟩ := round_of_rename renaming_releaseRenaming proxyExample
  have hround : (proxyExample.load.toOption.bind fun p =>
      (Context.ofProgram p Release.forge17.profile).toOption.map fun cx =>
        (cx.validate.after []).2.length) = some 3 := by
    decide +kernel
  obtain ⟨p, hp, hround⟩ := Option.bind_eq_some_iff.1 hround
  obtain ⟨cx, hcx, hlength⟩ := Option.map_eq_some_iff.1 hround
  have hp := toOption_eq_some_iff.1 hp
  have hcx := toOption_eq_some_iff.1 hcx
  obtain ⟨p', hp'⟩ := hloads.2 ⟨p, hp⟩
  obtain ⟨hresolves, hends⟩ := hrounds p p' hp hp'
  obtain ⟨cx', hcx'⟩ := hresolves.2 ⟨cx, hcx⟩
  obtain ⟨hlike, hreports⟩ := hends cx cx' hcx hcx'
  exact ⟨p, p', cx, cx', hp, hp', hcx, hcx', hlike, hlength, hreports.length_eq ▸ hlength⟩

end Snapshot

end ModContracts
