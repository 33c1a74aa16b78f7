import ModContracts.Round
import ModContracts.Proofs.Contract.Met
import ModContracts.Proofs.Program.Matched
import ModContracts.Proofs.Snapshot.Consistent

/-!
# The one fault of a round

On a loaded program a round can fault in one way only: a tag sits on a declaration of a kind it does
not accept. It then stops at the first such pair, and what was reported for the pairs before it
stays.

* `Program.placements` — the tagged declarations in the order in which a round takes them;
* `Program.WellPlaced` — a tag on a declaration of a kind it accepts;
* `Context.pairs_eq` — the pairs of a round are the placements;
* `Context.check_settles`, `Context.check_misplaced` — the check of one pair;
* `Snapshot.validate_of_load` — when a round over a loaded program faults, and with what.
-/

namespace ModContracts

theorem exists_first_not {α : Type} {P : α → Prop} {xs : List α} (h : ¬ ∀ x ∈ xs, P x) :
    ∃ before x after, xs = before ++ x :: after ∧ (∀ y ∈ before, P y) ∧ ¬ P x := by
  induction xs with
  | nil => simp at h
  | cons x rest ih =>
      by_cases hx : P x
      · have hrest : ¬ ∀ y ∈ rest, P y := fun hall => h (List.forall_mem_cons.2 ⟨hx, hall⟩)
        obtain ⟨before, y, after, rfl, hbefore, hy⟩ := ih hrest
        exact ⟨x :: before, y, after, rfl, List.forall_mem_cons.2 ⟨hx, hbefore⟩, hy⟩
      · exact ⟨[], x, rest, rfl, by simp, hx⟩

/-! ## Placements -/

namespace Program

instance decidableCarries (p : Program) (profile : Profile) (d : DeclId) (tag : Tag) :
    Decidable (p.Carries profile d tag) :=
  decidable_of_iff _ carries_iff.symm

/-- The tagged declarations of a program: tag by tag in the order of tags, and by increasing id
under each. -/
def placements (p : Program) (profile : Profile) : List (Tag × DeclId) :=
  Tag.all.flatMap fun tag =>
    ((List.range p.declarations.length).filter fun d => p.Carries profile d tag).map fun d =>
      (tag, d)

/-- A declaration is of a kind that a tag accepts. -/
def WellPlaced (p : Program) (tag : Tag) (d : DeclId) : Prop :=
  ∃ kind, p.kindOf d = .ok kind ∧ tag.accepts kind = true

variable {p : Program} {profile : Profile} {tag : Tag} {d : DeclId} {decl : Declaration}

/-- What carries a tag is a declaration. -/
theorem Carries.exists_declaration (h : p.Carries profile d tag) :
    ∃ decl, p.declarations[d]? = some decl := by
  obtain ⟨ids, hids, -⟩ := h
  cases hdecl : p.declarations[d]? with
  | none => simp [attachmentsOf, declaration, hdecl, Except.map] at hids
  | some decl => exact ⟨decl, rfl⟩

theorem mem_placements_iff : (tag, d) ∈ p.placements profile ↔ p.Carries profile d tag := by
  unfold placements
  simp only [List.mem_flatMap, List.mem_map, List.mem_filter, List.mem_range, decide_eq_true_eq,
    Prod.mk.injEq]
  constructor
  · intro h
    obtain ⟨tag', -, d', ⟨-, hcarries⟩, rfl, rfl⟩ := h
    exact hcarries
  · intro hcarries
    obtain ⟨decl, hdecl⟩ := hcarries.exists_declaration
    have hlt := (List.getElem?_eq_some_iff.1 hdecl).1
    exact ⟨tag, Tag.mem_all tag, d, ⟨hlt, hcarries⟩, rfl, rfl⟩

theorem wellPlaced_iff (h : p.declarations[d]? = some decl) :
    p.WellPlaced tag d ↔ tag.accepts decl.kind = true := by
  simp [WellPlaced, kindOf_eq h]

/-- A tag is as well placed on a declaration as on a matching one. -/
theorem Matched.wellPlaced_iff {ρ : String → String} {T : TypeId → TypeId → Prop}
    {D : DeclId → DeclId → Prop} {p' : Program} (h : p.Matched ρ T D p') {d' : DeclId} (hd : D d d')
    (tag : Tag) : p'.WellPlaced tag d' ↔ p.WellPlaced tag d := by
  unfold WellPlaced
  have hkind := h.kindOf hd
  generalize p.kindOf d = kind at hkind
  generalize p'.kindOf d' = kind' at hkind
  cases hkind with
  | ok hkind => rw [hkind]
  | error => simp

end Program

namespace Context

variable {cx : Context} {tag : Tag} {d : DeclId} {decl : Declaration}

/-- A round takes the placements, in their order. -/
theorem pairs_eq (hp : cx.program.WellFormed) (hcx : cx.Resolved) :
    cx.pairs = cx.program.placements cx.framework.profile := by
  unfold pairs Program.placements
  refine List.flatMap_congr fun tag _ => ?_
  have htagged : cx.tagged tag = (List.range cx.program.declarations.length).filter fun d =>
      cx.program.Carries cx.framework.profile d tag := by
    unfold tagged
    rw [hcx.tagType]
    cases htype : cx.program.typeId? (tag.annotationName cx.framework.profile) with
    | none => simp [Program.carries_iff, htype]
    | some type =>
        -- the index of carriers lists the declarations that wear the type by increasing id
        simp [Program.carries_iff, htype, hp.carriersOf]
  rw [htagged]

/-! ## One pair -/

section Pair

variable (h : cx.program.declarations[d]? = some decl)
include h

/-- A tag on a declaration of a kind it does not accept is a fault, and nothing is reported. -/
theorem check_misplaced (hkind : tag.accepts decl.kind = false) :
    (cx.check tag d).Yields (.error (.unexpectedTarget tag decl.kind decl.name)) [] := by
  unfold check
  refine Check.Yields.ask_bind (Program.declaration_eq h) ?_
  rw [hkind]
  exact Check.yields_throw _

/-- On a declaration of a kind that the tag accepts, a check settles all requirements of the tag. -/
theorem check_settles (hp : cx.program.WellFormed) (hcx : cx.Resolved)
    (hcarries : cx.program.Carries cx.framework.profile d tag)
    (hkind : tag.accepts decl.kind = true) :
    (cx.check tag d).Settles fun deny => ∀ r ∈ tag.contract,
      r.Met cx.program cx.framework.profile d deny := by
  unfold check
  refine Check.Settles.ask_bind (Program.declaration_eq h) ?_
  rw [if_pos hkind]
  have happlies := applies_of_accepts hkind ((wears_iff hcx).2 hcarries)
  exact Check.Settles.forM fun r hr => checkRequirement_settles hp hcx h (happlies r hr)

end Pair

/-! ## All pairs -/

section All

variable (hp : cx.program.WellFormed) (hcx : cx.Resolved)
include hp hcx

theorem carries_of_mem_pairs (hpair : (tag, d) ∈ cx.pairs) :
    cx.program.Carries cx.framework.profile d tag := by
  rwa [pairs_eq hp hcx, Program.mem_placements_iff] at hpair

/-- A pair that is well placed does not fault. -/
theorem check_yields (hpair : (tag, d) ∈ cx.pairs) (hplaced : cx.program.WellPlaced tag d) :
    (cx.check tag d).Yields (.ok ()) (cx.check tag d).reported := by
  have hcarries := carries_of_mem_pairs hp hcx hpair
  obtain ⟨decl, hdecl⟩ := hcarries.exists_declaration
  obtain ⟨ds, hyields, -⟩ :=
    check_settles hdecl hp hcx hcarries ((Program.wellPlaced_iff hdecl).1 hplaced)
  rwa [hyields.reported_eq]

/-- When not all pairs are well placed, there is a first one that is not. -/
theorem exists_first_misplaced
    (h : ¬ ∀ pair ∈ cx.pairs, cx.program.WellPlaced pair.1 pair.2) :
    ∃ before tag d after decl, cx.pairs = before ++ (tag, d) :: after ∧
      (∀ pair ∈ before, cx.program.WellPlaced pair.1 pair.2) ∧
      cx.program.declarations[d]? = some decl ∧ tag.accepts decl.kind = false := by
  obtain ⟨before, ⟨tag, d⟩, after, hsplit, hbefore, hmisplaced⟩ := exists_first_not h
  have hcarries := carries_of_mem_pairs hp hcx (show (tag, d) ∈ cx.pairs by rw [hsplit]; simp)
  obtain ⟨decl, hdecl⟩ := hcarries.exists_declaration
  refine ⟨before, tag, d, after, decl, hsplit, hbefore, hdecl, ?_⟩
  rwa [Program.wellPlaced_iff hdecl, Bool.not_eq_true] at hmisplaced

/-- A round over pairs that are all well placed takes all of them. -/
theorem validate_yields (hplaced : ∀ pair ∈ cx.pairs, cx.program.WellPlaced pair.1 pair.2) :
    cx.validate.Yields (.ok cx.summary)
      (cx.pairs.flatMap fun pair => (cx.check pair.1 pair.2).reported) := by
  unfold validate
  have hpairs := Check.Yields.forM fun pair hpair =>
    check_yields hp hcx hpair (hplaced pair hpair)
  rw [← List.append_nil (List.flatMap _ _)]
  exact hpairs.bind (Check.yields_pure cx.summary)

/-- A round stops at the first pair that is misplaced. -/
theorem validate_misplaced {before after : List (Tag × DeclId)}
    (hpairs : cx.pairs = before ++ (tag, d) :: after)
    (hplaced : ∀ pair ∈ before, cx.program.WellPlaced pair.1 pair.2)
    (h : cx.program.declarations[d]? = some decl) (hkind : tag.accepts decl.kind = false) :
    cx.validate.Yields (.error (.unexpectedTarget tag decl.kind decl.name))
      (before.flatMap fun pair => (cx.check pair.1 pair.2).reported) := by
  unfold validate
  have hbefore : ∀ pair ∈ before,
      (cx.check pair.1 pair.2).Yields (.ok ()) (cx.check pair.1 pair.2).reported :=
    fun pair hpair => check_yields hp hcx (by rw [hpairs]; simp [hpair]) (hplaced pair hpair)
  have hfault : ((before ++ (tag, d) :: after).forM fun pair => cx.check pair.1 pair.2).Yields
      (.error (.unexpectedTarget tag decl.kind decl.name))
      (before.flatMap (fun pair => (cx.check pair.1 pair.2).reported) ++ []) :=
    Check.Yields.forM_error hbefore (check_misplaced h hkind)
  rw [List.append_nil] at hfault
  rw [hpairs]
  exact hfault.bind_error

/-- What goes through has no misplaced pair. -/
theorem wellPlaced_of_validate {reports : Diagnostics} {summary : RoundSummary}
    (h : (cx.validate.after reports).1 = .ok summary) :
    ∀ pair ∈ cx.pairs, cx.program.WellPlaced pair.1 pair.2 := by
  by_contra hplaced
  obtain ⟨before, tag, d, after, decl, hsplit, hbefore, hdecl, hkind⟩ :=
    exists_first_misplaced hp hcx hplaced
  simp [validate_misplaced hp hcx hsplit hbefore hdecl hkind reports] at h

/-- A round goes through when all pairs are well placed, and then keeps what they report on their
own. -/
theorem validate_eq_ok_iff {prior reports : Diagnostics} {summary : RoundSummary} :
    cx.validate.after prior = (.ok summary, reports) ↔
      (∀ pair ∈ cx.pairs, cx.program.WellPlaced pair.1 pair.2) ∧ summary = cx.summary ∧
        reports = prior ++ cx.pairs.flatMap fun pair => (cx.check pair.1 pair.2).reported := by
  constructor
  · intro h
    have hplaced := wellPlaced_of_validate hp hcx (congrArg Prod.fst h)
    rw [validate_yields hp hcx hplaced prior, Prod.mk.injEq, Except.ok.injEq] at h
    exact ⟨hplaced, h.1.symm, h.2.symm⟩
  · intro h
    obtain ⟨hplaced, rfl, rfl⟩ := h
    exact validate_yields hp hcx hplaced prior

end All

end Context

/-! ## Rounds over loaded programs -/

namespace Snapshot

/-- A round over a loaded program goes through exactly when every tagged declaration is of a kind
that its tag accepts. Otherwise it names the first one that is not, in the order of tags and then of
ids, and keeps what the pairs before it report on their own. There is no other fault. -/
theorem validate_of_load {s : Snapshot} {p : Program} {profile : Profile} (h : s.load = .ok p)
    (hdesignated : ∀ t : Designated, ∃ id, p.typeId? (t.typeName profile) = some id)
    (reports : Diagnostics) :
    ∃ cx, Context.ofProgram p profile = .ok cx ∧
      ((∃ summary, (cx.validate.after reports).1 = .ok summary) ↔
        ∀ tag d, p.Carries profile d tag → p.WellPlaced tag d) ∧
      ∀ fault, (cx.validate.after reports).1 = .error fault →
        ∃ before tag d after kind name,
          p.placements profile = before ++ (tag, d) :: after ∧
          (∀ pair ∈ before, p.WellPlaced pair.1 pair.2) ∧
          p.kindOf d = .ok kind ∧ tag.accepts kind = false ∧ p.nameOf d = .ok name ∧
          fault = .unexpectedTarget tag kind name ∧
          (cx.validate.after reports).2 =
            reports ++ before.flatMap fun pair => (cx.check pair.1 pair.2).reported := by
  have hp := wellFormed_of_load h
  obtain ⟨cx, hcx⟩ := Context.exists_ofProgram_iff.2 hdesignated
  refine ⟨cx, hcx, ?_⟩
  obtain ⟨rfl, rfl, hresolved⟩ := Context.ofProgram_eq_ok_iff.1 hcx
  have hpairs := Context.pairs_eq hp hresolved
  by_cases hplaced : ∀ pair ∈ cx.pairs, cx.program.WellPlaced pair.1 pair.2
  · -- nothing is misplaced: the round takes every pair
    have hvalid := Context.validate_yields hp hresolved hplaced reports
    rw [hvalid]
    refine ⟨⟨fun _ tag d hcarries => ?_, fun _ => ⟨cx.summary, rfl⟩⟩, by simp⟩
    refine hplaced (tag, d) ?_
    rwa [hpairs, Program.mem_placements_iff]
  · -- something is misplaced: the round stops at the first such pair
    obtain ⟨before, tag, d, after, decl, hsplit, hbefore, hdecl, hkind⟩ :=
      Context.exists_first_misplaced hp hresolved hplaced
    rw [Context.validate_misplaced hp hresolved hsplit hbefore hdecl hkind reports]
    rw [hpairs] at hsplit
    refine ⟨iff_of_false (by simp) fun hall => ?_, ?_⟩
    · have hcarries : cx.program.Carries cx.framework.profile d tag := by
        rw [← Program.mem_placements_iff, hsplit]
        simp
      have haccepts := (Program.wellPlaced_iff hdecl).1 (hall tag d hcarries)
      simp [hkind] at haccepts
    · rintro fault ⟨⟩
      exact ⟨before, tag, d, after, decl.kind, decl.name, hsplit, hbefore,
        Program.kindOf_eq hdecl, hkind, Program.nameOf_eq hdecl, rfl, rfl⟩

/-- The types a profile names: what the rules refer to, and the annotations of all tags. -/
def frameworkTypes (profile : Profile) : List TypeSpec :=
  [profile.fmlEvent, profile.event, profile.modMetadata, profile.side].map
      (fun name => { name := name }) ++
    Tag.all.map fun tag => { name := tag.annotationName profile }

/-- A class under two tags, one of which is for fields. -/
def misplacedExample : Snapshot where
  types := frameworkTypes .default
  declarations := [{
    kind := .classType, name := "a.Example"
    attachments := [{ type := Tag.sidedProxy.annotationName .default },
      { type := Tag.mod.annotationName .default }] }]

theorem exists_validate_misplacedExample :
    ∃ p cx, misplacedExample.load = .ok p ∧ Context.ofProgram p .default = .ok cx ∧
      ((∃ summary, (cx.validate.after []).1 = .ok summary) ↔
        ∀ tag d, p.Carries .default d tag → p.WellPlaced tag d) := by
  have hknown : (misplacedExample.load.toOption.map fun p =>
      Designated.all.all fun t => (p.typeId? (t.typeName .default)).isSome) = some true := by
    decide +kernel
  cases h : misplacedExample.load with
  | error e => simp [h, Except.toOption] at hknown
  | ok p =>
      have hdesignated : ∀ t : Designated, ∃ id, p.typeId? (t.typeName .default) = some id := by
        intro t
        simp only [h, Except.toOption, Option.map_some, Option.some.injEq, List.all_eq_true,
          Option.isSome_iff_exists] at hknown
        exact hknown t (by cases t <;> decide)
      obtain ⟨cx, hcx, hiff, -⟩ := validate_of_load h hdesignated []
      exact ⟨p, cx, rfl, hcx, hiff⟩

end Snapshot

end ModContracts
