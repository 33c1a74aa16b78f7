import ModContracts.Proofs.Contract.Codes
import ModContracts.Proofs.Contract.Constructors
import ModContracts.Proofs.Round.Steps

/-!
# Counting beside a declaration

A number of elements is counted around a declaration: of what stands directly inside the same declaration,
whatever carries the tag counts once. The declaration that is asked has a part in it only if it carries
the tag itself, so all that stand together get the same verdict. One contract counts, that of instance
factories, and so a round that goes through tells each of several factories of a declaration that there
are too many.

* `Program.CarryIn` — what carries a tag inside a declaration; `Program.CountFinding` — what is found when
  its number is held against bounds;
* `Context.ensureElementCount_yields_of_carryIn` — what is reported on a number of elements;
* `Context.filter_flatMap_steps` — the reports of a round on numbers of elements;
* `Program.FactoriesTold` — what a round tells instance factories;
* `Snapshot.elementCounts_of_load` — all of this for loaded programs.
-/

namespace ModContracts

/-- If a function has elements for one entry of a list only, and it is there once, these are all. -/
theorem flatMap_eq_of_nodup {α β : Type} {xs : List α} {f : α → List β} {x : α} (h : xs.Nodup)
    (hx : x ∈ xs) (hothers : ∀ y ∈ xs, y ≠ x → f y = []) : xs.flatMap f = f x := by
  obtain ⟨before, after, rfl⟩ := List.append_of_mem hx
  have hnotMem := (List.nodup_middle.1 h).notMem
  rw [List.mem_append, not_or] at hnotMem
  have hbefore : before.flatMap f = [] := List.flatMap_eq_nil_iff.2 fun y hy =>
    hothers y (List.mem_append_left _ hy) fun heq => hnotMem.1 (heq ▸ hy)
  have hafter : after.flatMap f = [] := List.flatMap_eq_nil_iff.2 fun y hy =>
    hothers y (List.mem_append_right _ (List.mem_cons_of_mem x hy)) fun heq => hnotMem.2 (heq ▸ hy)
  rw [List.flatMap_append, List.flatMap_cons, hbefore, hafter, List.nil_append, List.append_nil]

/-- The codes of reports on a number of elements. -/
def Code.ofCount : Code → Bool
  | .notEnough | .tooMany => true
  | _ => false

/-- Whether a requirement is one on a number of elements. -/
def Requirement.isCount : Requirement → Bool
  | .elementCount .. => true
  | _ => false

theorem Requirement.ofCount_of_mem_codes (r : Requirement) :
    ∀ code ∈ r.codes, code.ofCount = r.isCount := by
  cases r with
  | modifier m required => cases m <;> cases required <;> decide
  | _ => simp only [codes, isCount]; decide

namespace Program

section Findings

variable (p : Program) (profile : Profile)

/-- The declarations directly inside another one that carry a tag, each once. -/
def CarryIn (o : DeclId) (tag : Tag) (carrying : List DeclId) : Prop :=
  carrying.Nodup ∧ ∀ e, e ∈ carrying ↔ p.StandsIn e o ∧ p.Carries profile e tag

/-- What is found when a number of elements is held against bounds. It is said of the declaration that is
asked. -/
inductive CountFinding (d : DeclId) (tag : Tag) (count low high : Nat) : Diagnostics → Prop
  | few {subject : String} (hfew : count < low) (hsubject : p.describe d = .ok subject) :
      CountFinding d tag count low high
        [Code.notEnough.render subject (tag.annotationName profile) (.declaration d)]
  | many {subject : String} (hmany : high < count) (hsubject : p.describe d = .ok subject) :
      CountFinding d tag count low high
        [Code.tooMany.render subject (tag.annotationName profile) (.declaration d)]
  | within (hlow : low ≤ count) (hhigh : count ≤ high) : CountFinding d tag count low high []

/-- The methods directly inside a declaration that are instance factories, each once. -/
def FactoriesOf (o : DeclId) (factories : List DeclId) : Prop :=
  factories.Nodup ∧ ∀ e, e ∈ factories ↔
    p.StandsIn e o ∧ p.kindOf e = .ok .method ∧ p.Carries profile e .instanceFactory

/-- What a round tells of the numbers of instance factories. -/
structure FactoriesTold (ds : Diagnostics) : Prop where
  /-- Where there are several, each of them is told once that there are too many. -/
  several : ∀ o factories, p.FactoriesOf profile o factories → 2 ≤ factories.length →
    ∀ e ∈ factories, ∃ subject, p.describe e = .ok subject ∧
      ds.filter (fun found => found.code = .tooMany ∧ found.anchor = .declaration e) =
        [Code.tooMany.render subject (Tag.annotationName .instanceFactory profile)
          (.declaration e)]
  /-- Where there is one, it is not told. -/
  single : ∀ o factories, p.FactoriesOf profile o factories → factories.length = 1 →
    ∀ e ∈ factories, ∀ found ∈ ds, found.code = .tooMany → found.anchor ≠ .declaration e
  /-- Nothing else is told that there are too many. -/
  others : ∀ found ∈ ds, found.code = .tooMany → ∃ o factories, ∃ e ∈ factories,
    p.FactoriesOf profile o factories ∧ 2 ≤ factories.length ∧ found.anchor = .declaration e
  /-- A factory counts itself, so there are always enough. -/
  enough : ∀ found ∈ ds, found.code ≠ .notEnough

end Findings

variable {p : Program} {profile : Profile} {o : DeclId} {tag : Tag} {carrying carrying' : List DeclId}

theorem exists_carryIn (p : Program) (profile : Profile) (o : DeclId) (tag : Tag) :
    ∃ carrying, p.CarryIn profile o tag carrying := by
  refine ⟨(List.range p.declarations.length).filter fun e =>
    p.enclosingOf e = .ok (some o) ∧ p.Carries profile e tag, List.nodup_range.filter _, fun e => ?_⟩
  simp only [List.mem_filter, List.mem_range, decide_eq_true_eq]
  refine and_iff_right_of_imp fun h => ?_
  obtain ⟨decl, hdecl⟩ := h.2.exists_declaration
  exact (List.getElem?_eq_some_iff.1 hdecl).1

theorem CarryIn.length_eq (h : p.CarryIn profile o tag carrying)
    (h' : p.CarryIn profile o tag carrying') : carrying.length = carrying'.length :=
  ((List.perm_ext_iff_of_nodup h.1 h'.1).2 fun e => (h.2 e).trans (h'.2 e).symm).length_eq

end Program

namespace Context

open Program (CarryIn CountFinding FactoriesOf FactoriesTold)

variable {cx : Context} {d o : DeclId} {decl : Declaration} {tag : Tag} {carrying : List DeclId}
  {count low high : Nat}

/-! ## One declaration -/

/-- The members that carry a tag are as many as the test on each of them finds. -/
theorem countP_members (hp : cx.program.WellFormed) (hcx : cx.Resolved) {around : Declaration}
    (haround : cx.program.declarations[o]? = some around)
    (h : cx.program.CarryIn cx.framework.profile o tag carrying) :
    around.members.countP (cx.wears tag) = carrying.length := by
  rw [List.countP_eq_length_filter]
  refine CarryIn.length_eq ⟨((hp.sorted haround).imp Nat.ne_of_lt).filter _, fun e => ?_⟩ h
  rw [List.mem_filter, wears_iff hcx, hp.mem_membersOf_iff haround]

/-- What is found on a number is what is reported. -/
theorem countFinding_iff (h : cx.program.declarations[d]? = some decl) (hbounds : low ≤ high)
    {es : Diagnostics} :
    cx.program.CountFinding cx.framework.profile d tag count low high es ↔
      es = countReports cx d decl tag count low high := by
  have hsubject := Program.describe_eq h
  unfold countReports
  dsimp only
  constructor
  · intro hfinding
    cases hfinding with
    | few hfew hdescribe =>
        obtain rfl := Except.ok.inj (hsubject.symm.trans hdescribe)
        rw [if_pos hfew]
    | many hmany hdescribe =>
        obtain rfl := Except.ok.inj (hsubject.symm.trans hdescribe)
        rw [if_neg (by omega), if_pos hmany]
    | within hlow hhigh => rw [if_neg (by omega), if_neg (by omega)]
  · rintro rfl
    split
    case isTrue hfew => exact .few hfew hsubject
    case isFalse hfew =>
        split
        case isTrue hmany => exact .many hmany hsubject
        case isFalse hmany => exact .within (by omega) (by omega)

theorem ensureElementCount_yields_of_carryIn (hp : cx.program.WellFormed) (hcx : cx.Resolved)
    (h : cx.program.declarations[d]? = some decl) (hinside : cx.program.StandsIn d o)
    (hcarrying : cx.program.CarryIn cx.framework.profile o tag carrying) (low high : Nat) :
    (cx.ensureElementCount d tag low high).Yields (.ok ())
      (countReports cx d decl tag carrying.length low high) := by
  have howner := (Program.standsIn_iff h).1 hinside
  obtain ⟨around, haround, -⟩ := hp.enclosing h howner
  rw [← countP_members hp hcx haround hcarrying]
  exact ensureElementCount_yields hp h howner haround tag low high

/-! ## A round -/

/-- A round that goes through takes all its steps. -/
theorem eq_flatMap_steps_of_validate
    (hdecl : ∀ pair ∈ cx.pairs, ∃ decl, cx.program.declarations[pair.2]? = some decl)
    {summary : RoundSummary} {ds : Diagnostics} (h : cx.validate.after [] = (.ok summary, ds)) :
    ds = cx.steps.flatMap cx.reportsOf := by
  rw [validate, Check.after_bind, pairs_follow hdecl []] at h
  rcases cx.course_cases cx.steps with ⟨hfault, htaken, -⟩ | ⟨-, -, -, fault, -, -, hfault, -⟩
  · rw [Course.outcome, hfault, htaken] at h
    exact (Prod.mk.inj h).2.symm
  · rw [Course.outcome, hfault] at h
    cases (Prod.mk.inj h).1

/-- The reports of a step are on a number of elements when its requirement is. -/
theorem filter_reportsOf (step : Step) :
    (cx.reportsOf step).filter (fun found => found.code.ofCount) =
      if step.requirement.isCount then cx.reportsOf step else [] := by
  have hcode : ∀ found ∈ cx.reportsOf step, found.code.ofCount = step.requirement.isCount :=
    fun found hfound => step.requirement.ofCount_of_mem_codes _ <|
      (cx.checkRequirement_emits step.declaration step.requirement).code_mem hfound
  cases hcount : step.requirement.isCount with
  | true =>
      rw [if_pos rfl, List.filter_eq_self]
      exact fun found hfound => (hcode found hfound).trans hcount
  | false =>
      rw [if_neg (by simp), List.filter_eq_nil_iff]
      exact fun found hfound => by simp [hcode found hfound, hcount]

/-- Instance factories have the only contract with a number of elements in it. -/
theorem flatMap_stepsOf (tag : Tag) (d : DeclId) :
    ((stepsOf tag d).flatMap fun step => if step.requirement.isCount then cx.reportsOf step else []) =
      if tag = .instanceFactory then (cx.ensureElementCount d .instanceFactory 1 1).reported
      else [] := by
  cases tag <;> simp [stepsOf, Tag.contract, Requirement.isCount, reportsOf, alone, checkRequirement,
    Check.reported]

/-- The reports of a round on numbers of elements are those on instance factories. -/
theorem filter_flatMap_steps :
    (cx.steps.flatMap cx.reportsOf).filter (fun found => found.code.ofCount) =
      (cx.tagged .instanceFactory).flatMap fun d =>
        (cx.ensureElementCount d .instanceFactory 1 1).reported := by
  simp only [List.filter_flatMap, filter_reportsOf, steps, List.flatMap_assoc, flatMap_stepsOf]
  rw [flatMap_eq_of_nodup Tag.nodup_all (Tag.mem_all .instanceFactory) fun tag _ hne => ?_]
  · simp only [if_true]
  · simp [hne]

section Factories

variable (hp : cx.program.WellFormed) (hcx : cx.Resolved)
  (hplaced : ∀ pair ∈ cx.pairs, cx.program.WellPlaced pair.1 pair.2)
include hp hcx

theorem mem_tagged_iff_carries :
    d ∈ cx.tagged tag ↔ cx.program.Carries cx.framework.profile d tag := by
  rw [← mem_pairs_iff, pairs_eq hp hcx, Program.mem_placements_iff]

include hplaced

omit hp hcx in
/-- Whatever is tagged as an instance factory is a method. -/
theorem kindOf_factory (h : d ∈ cx.tagged .instanceFactory) :
    cx.program.kindOf d = .ok .method := by
  obtain ⟨kind, hkind, haccepts⟩ := hplaced _ (mem_pairs_iff.2 h)
  rw [hkind, of_decide_eq_true haccepts]

theorem factoriesOf_iff {factories : List DeclId} :
    cx.program.FactoriesOf cx.framework.profile o factories ↔
      cx.program.CarryIn cx.framework.profile o .instanceFactory factories := by
  unfold FactoriesOf CarryIn
  refine and_congr_right fun _ => forall_congr' fun e => iff_congr Iff.rfl ?_
  refine and_congr_right fun _ => and_iff_right_of_imp fun hcarries => ?_
  exact kindOf_factory hplaced ((mem_tagged_iff_carries hp hcx).2 hcarries)

/-- What is reported on the number of factories around one of them. -/
theorem reported_factory {factories : List DeclId}
    (h : cx.program.FactoriesOf cx.framework.profile o factories) (hd : d ∈ factories) :
    ∃ subject, cx.program.describe d = .ok subject ∧
      (cx.ensureElementCount d .instanceFactory 1 1).reported =
        if 2 ≤ factories.length then
          [Code.tooMany.render subject (Tag.annotationName .instanceFactory cx.framework.profile)
            (.declaration d)]
        else [] := by
  obtain ⟨hinside, -, hcarries⟩ := (h.2 d).1 hd
  obtain ⟨decl, hdecl⟩ := hcarries.exists_declaration
  have hyields := ensureElementCount_yields_of_carryIn hp hcx hdecl hinside
    ((factoriesOf_iff hp hcx hplaced).1 h) 1 1
  -- a factory is among those that are counted
  have hpos := List.length_pos_of_mem hd
  refine ⟨decl.subject, Program.describe_eq hdecl, ?_⟩
  rw [hyields.reported_eq, countReports, if_neg (by omega)]
  rfl

/-- Every factory stands with the factories of a declaration. -/
theorem exists_factoriesOf (h : d ∈ cx.tagged .instanceFactory) :
    ∃ o factories, cx.program.FactoriesOf cx.framework.profile o factories ∧ d ∈ factories := by
  have hkind := kindOf_factory hplaced h
  obtain ⟨decl, hdecl, hmethod⟩ := Program.kindOf_eq_ok_iff.1 hkind
  obtain ⟨o, howner⟩ := hp.enclosed hdecl (by rw [hmethod]; rfl)
  obtain ⟨factories, hfactories⟩ :=
    Program.exists_carryIn cx.program cx.framework.profile o .instanceFactory
  refine ⟨o, factories, (factoriesOf_iff hp hcx hplaced).2 hfactories, (hfactories.2 d).2 ⟨?_, ?_⟩⟩
  · exact (Program.standsIn_iff hdecl).2 howner
  · exact (mem_tagged_iff_carries hp hcx).1 h

/-- What a round tells one factory. -/
theorem filter_tooMany {factories : List DeclId}
    (h : cx.program.FactoriesOf cx.framework.profile o factories) (hd : d ∈ factories) :
    (cx.steps.flatMap cx.reportsOf).filter
        (fun found => found.code = .tooMany ∧ found.anchor = .declaration d) =
      (cx.ensureElementCount d .instanceFactory 1 1).reported := by
  have hcount : (cx.steps.flatMap cx.reportsOf).filter
      (fun found => found.code = .tooMany ∧ found.anchor = .declaration d) =
      ((cx.steps.flatMap cx.reportsOf).filter fun found => found.code.ofCount).filter
        fun found => found.code = .tooMany ∧ found.anchor = .declaration d := by
    rw [List.filter_filter]
    refine List.filter_congr fun found _ => ?_
    cases found.code <;> simp [Code.ofCount]
  have hnodup : (cx.tagged .instanceFactory).Nodup :=
    (nodup_tagged_iff hcx).2 fun type _ => by
      rw [hp.carriersOf]
      exact List.nodup_range.filter _
  have htagged : d ∈ cx.tagged .instanceFactory :=
    (mem_tagged_iff_carries hp hcx).2 ((h.2 d).1 hd).2.2
  rw [hcount, filter_flatMap_steps, List.filter_flatMap,
    flatMap_eq_of_nodup hnodup htagged fun e he hne => ?_]
  · obtain ⟨subject, -, hreported⟩ := reported_factory hp hcx hplaced h hd
    rw [hreported]
    split <;> simp [Code.render]
  · -- the others are told about themselves
    obtain ⟨o', factories', hfactories', he'⟩ := exists_factoriesOf hp hcx hplaced he
    obtain ⟨subject, -, hreported⟩ := reported_factory hp hcx hplaced hfactories' he'
    rw [hreported]
    split <;> simp [Code.render, hne]

/-- What is reported on a number of elements is told one of several factories, about too many. -/
theorem tooMany_of_mem {found : Diagnostic} (hfound : found ∈ cx.steps.flatMap cx.reportsOf)
    (hcode : found.code.ofCount = true) :
    found.code = .tooMany ∧ ∃ o factories, ∃ e ∈ factories,
      cx.program.FactoriesOf cx.framework.profile o factories ∧ 2 ≤ factories.length ∧
        found.anchor = .declaration e := by
  have hmem : found ∈ (cx.steps.flatMap cx.reportsOf).filter fun found => found.code.ofCount :=
    List.mem_filter.2 ⟨hfound, hcode⟩
  rw [filter_flatMap_steps] at hmem
  obtain ⟨e, he, hmem⟩ := List.mem_flatMap.1 hmem
  obtain ⟨o, factories, hfactories, he⟩ := exists_factoriesOf hp hcx hplaced he
  obtain ⟨subject, -, hreported⟩ := reported_factory hp hcx hplaced hfactories he
  rw [hreported] at hmem
  split at hmem
  case isTrue hseveral =>
      obtain rfl := List.mem_singleton.1 hmem
      exact ⟨rfl, o, factories, e, he, hfactories, hseveral, rfl⟩
  case isFalse => exact absurd hmem List.not_mem_nil

theorem factoriesTold :
    cx.program.FactoriesTold cx.framework.profile (cx.steps.flatMap cx.reportsOf) where
  several o factories hfactories hseveral e he := by
    obtain ⟨subject, hsubject, hreported⟩ := reported_factory hp hcx hplaced hfactories he
    refine ⟨subject, hsubject, ?_⟩
    rw [filter_tooMany hp hcx hplaced hfactories he, hreported, if_pos hseveral]
  single o factories hfactories hsingle e he found hfound hcode hanchor := by
    obtain ⟨subject, -, hreported⟩ := reported_factory hp hcx hplaced hfactories he
    rw [if_neg (by omega)] at hreported
    have hnone := filter_tooMany hp hcx hplaced hfactories he
    rw [hreported, List.filter_eq_nil_iff] at hnone
    exact hnone found hfound (decide_eq_true ⟨hcode, hanchor⟩)
  others found hfound hcode := (tooMany_of_mem hp hcx hplaced hfound (by rw [hcode]; rfl)).2
  enough found hfound hcode := by
    have htooMany := (tooMany_of_mem hp hcx hplaced hfound (by rw [hcode]; rfl)).1
    simp [hcode] at htooMany

end Factories

end Context

/-! ## Loaded programs -/

namespace Snapshot

/-- In a loaded program, holding a number of elements against bounds never faults, and reports what is
found on the number of those that carry the tag and stand directly inside the declaration around: the
same for each of them. A round that goes through tells every one of several instance factories of a
declaration that there are too many, tells nothing to the only one, and never that there are not enough. -/
theorem elementCounts_of_load {s : Snapshot} {profile : Profile} {cx : Context}
    (h : s.load = .ok cx.program) (hcx : Context.ofProgram cx.program profile = .ok cx) :
    (∀ o tag, ∃ carrying, cx.program.CarryIn profile o tag carrying) ∧
    (∀ o tag carrying, cx.program.CarryIn profile o tag carrying →
      ∀ d, cx.program.StandsIn d o → ∀ low high, low ≤ high →
        ∃ ds, (cx.ensureElementCount d tag low high).Yields (.ok ()) ds ∧
          ∀ es, cx.program.CountFinding profile d tag carrying.length low high es ↔ es = ds) ∧
    ∀ summary ds, round cx.program profile = .ok (.ok summary, ds) →
      cx.program.FactoriesTold profile ds := by
  have hp := wellFormed_of_load h
  obtain ⟨-, rfl, hresolved⟩ := Context.ofProgram_eq_ok_iff.1 hcx
  refine ⟨fun o tag => Program.exists_carryIn _ _ o tag, ?_, ?_⟩
  · intro o tag carrying hcarrying d hinside low high hbounds
    obtain ⟨decl, hdecl, -⟩ := map_eq_ok_iff.1 hinside
    rw [Program.declaration_eq_ok_iff] at hdecl
    refine ⟨_, Context.ensureElementCount_yields_of_carryIn hp hresolved hdecl hinside hcarrying
      low high, fun es => ?_⟩
    exact Context.countFinding_iff hdecl hbounds
  · intro summary ds hround
    obtain ⟨cx', hcx', hvalidate⟩ := map_eq_ok_iff.1 hround
    obtain rfl := Except.ok.inj (hcx.symm.trans hcx')
    have hplaced := Context.wellPlaced_of_validate hp hresolved (congrArg Prod.fst hvalidate)
    have hdecl : ∀ pair ∈ cx.pairs, ∃ decl, cx.program.declarations[pair.2]? = some decl :=
      fun pair hpair => (Context.carries_of_mem_pairs hp hresolved hpair).exists_declaration
    rw [Context.eq_flatMap_steps_of_validate hdecl hvalidate]
    exact Context.factoriesTold hp hresolved hplaced

/-- A class with two factories, one of them tagged twice, a method beside them, and a class inside it
with a factory of its own. -/
def factoriesExample : Snapshot where
  types := frameworkTypes .default
  declarations := [{
    kind := .classType, name := "a.Example", modifiers := [.isPublic]
    attachments := [{ type := Tag.mod.annotationName .default }]
    members :=
      [factory "first" "a.Example" 2, factory "second" "a.Example" 1, factory "other" "a.Example" 0, {
        kind := .classType, name := "a.Example.Part",
        members := [factory "only" "a.Example.Part" 1] }] }]
where
  /-- A method that carries the tag a number of times. -/
  factory (name type : String) (times : Nat) : DeclSpec := {
    kind := .method, name, modifiers := [.isPublic, .isStatic], returns? := some type
    attachments := List.replicate times { type := Tag.instanceFactory.annotationName .default } }

/-- The method beside the two factories is told about their number when it is asked, but a round does
not ask it. -/
theorem exists_round_factoriesExample :
    ∃ (cx : Context) (carrying : List DeclId) (found ds : Diagnostics) (summary : RoundSummary),
      factoriesExample.load = .ok cx.program ∧ Context.ofProgram cx.program .default = .ok cx ∧
      cx.program.CarryIn .default 0 .instanceFactory carrying ∧
      (cx.ensureElementCount 3 .instanceFactory 1 1).Yields (.ok ()) found ∧
      (∀ es, cx.program.CountFinding .default 3 .instanceFactory carrying.length 1 1 es ↔
        es = found) ∧
      found = [Code.tooMany.render "Method other"
        (Tag.annotationName .instanceFactory .default) (.declaration 3)] ∧
      round cx.program .default = .ok (.ok summary, ds) ∧
      (ds.filter (·.code = .tooMany)).map (·.anchor) = [.declaration 1, .declaration 2] ∧
      cx.program.FactoriesTold .default ds := by
  have hrun : (factoriesExample.load.toOption.any fun p =>
      (Context.ofProgram p .default).toOption.any fun cx =>
        (round cx.program .default).toOption.any fun outcome =>
          outcome.1.toOption.isSome &&
            (outcome.2.filter (·.code = .tooMany)).map (·.anchor) =
              [.declaration 1, .declaration 2] &&
            cx.program.enclosingOf 3 = .ok (some 0) &&
            (cx.ensureElementCount 3 .instanceFactory 1 1).reported =
              [Code.tooMany.render "Method other"
                (Tag.annotationName .instanceFactory .default) (.declaration 3)]) = true := by
    decide +kernel
  obtain ⟨p, hload, hfacts⟩ := (Option.any_eq_true _ _).1 hrun
  obtain ⟨cx, hcx, hfacts⟩ := (Option.any_eq_true _ _).1 hfacts
  obtain ⟨⟨outcome, ds⟩, hround, hfacts⟩ := (Option.any_eq_true _ _).1 hfacts
  simp only [Bool.and_eq_true, decide_eq_true_eq, Option.isSome_iff_exists,
    toOption_eq_some_iff] at hload hcx hround hfacts
  obtain ⟨⟨⟨⟨summary, rfl⟩, hanchors⟩, hinside⟩, hreported⟩ := hfacts
  obtain ⟨rfl, -, -⟩ := Context.ofProgram_eq_ok_iff.1 hcx
  obtain ⟨hcarryIn, hcounted, htold⟩ := elementCounts_of_load hload hcx
  obtain ⟨carrying, hcarrying⟩ := hcarryIn 0 .instanceFactory
  obtain ⟨found, hyields, hfinding⟩ :=
    hcounted 0 .instanceFactory carrying hcarrying 3 hinside 1 1 (Nat.le_refl 1)
  exact ⟨cx, carrying, found, ds, summary, hload, hcx, hcarrying, hyields, hfinding,
    hyields.reported_eq.symm.trans hreported, hround, hanchors, htold summary ds hround⟩

end Snapshot

end ModContracts
