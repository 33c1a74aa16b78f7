import ModContracts.Proofs.Contract.Appends
import ModContracts.Proofs.Round.Faults
import ModContracts.Proofs.Round.Pairs

/-!
# The steps of a round

A round goes tag by tag, declaration by declaration and requirement by requirement. That is one run
over a flat list of steps. Every step adds what it reports on its own; the run ends before a step
whose declaration is of a kind that the tag does not accept, and after a step that faults.

* `Step`, `Context.steps` — the steps of a round in their order; `Context.alone` — one of them on its
  own;
* `Course`, `Context.course` — how far a run over steps gets;
* `Context.course_cases` — a run gets to the end, or to the first step that ends it;
* `Context.Follows` — a check that goes as the run over some steps, with its laws;
* `Program.validate_of_applyAll` — a round over any program that edits lead to.
-/

namespace ModContracts

/-- A requirement of a tag, for a declaration that carries the tag. -/
structure Step where
  tag : Tag
  declaration : DeclId
  requirement : Requirement
  deriving DecidableEq, Repr

/-- How far a run over steps gets. -/
structure Course where
  /-- The steps whose requirements are checked. -/
  taken : List Step
  /-- What ends the run early. -/
  fault? : Option CheckFault
  deriving DecidableEq, Repr

namespace Course

/-- Goes on with another course, unless a fault ends this one. -/
def andThen (c later : Course) : Course :=
  match c.fault? with
  | some _ => c
  | none => ⟨c.taken ++ later.taken, later.fault?⟩

/-- A course ends in its fault, if it has one. -/
def outcome (c : Course) : Except CheckFault Unit :=
  match c.fault? with
  | some fault => .error fault
  | none => .ok ()

theorem andThen_done (c : Course) : c.andThen ⟨[], none⟩ = c := by
  obtain ⟨taken, fault?⟩ := c
  cases fault? with
  | none => simp [andThen]
  | some fault => rfl

theorem andThen_assoc (a b c : Course) : (a.andThen b).andThen c = a.andThen (b.andThen c) := by
  obtain ⟨xs, fault?⟩ := a
  obtain ⟨ys, fault'?⟩ := b
  cases fault? with
  | some fault => rfl
  | none =>
      cases fault'? with
      | some fault' => rfl
      | none => simp [andThen]

end Course

namespace Context

variable (cx : Context)

/-- The requirements of a tag for one declaration. -/
def stepsOf (tag : Tag) (d : DeclId) : List Step :=
  tag.contract.map fun r => ⟨tag, d, r⟩

/-- The steps of a round: tag by tag, the declarations that carry the tag, the requirements of the
tag. -/
def steps : List Step :=
  Tag.all.flatMap fun tag => (cx.tagged tag).flatMap fun d => stepsOf tag d

/-- What checking the requirement of a step does when nothing was reported before. -/
def alone (step : Step) : Except CheckFault Unit × Diagnostics :=
  (cx.checkRequirement step.declaration step.requirement).after []

/-- What a step reports on its own. -/
def reportsOf (step : Step) : Diagnostics :=
  (cx.alone step).2

/-- The fault of a step whose declaration is of a kind that its tag does not accept. -/
def misplaced? (step : Step) : Option CheckFault :=
  cx.program.declarations[step.declaration]?.bind fun decl =>
    if step.tag.accepts decl.kind then none
    else some (.unexpectedTarget step.tag decl.kind decl.name)

/-- A misplaced step is not taken. Any other step is taken, and faults or not. -/
def courseOf (step : Step) : Course :=
  match cx.misplaced? step with
  | some fault => ⟨[], some fault⟩
  | none =>
    match (cx.alone step).1 with
    | .error fault => ⟨[step], some fault⟩
    | .ok () => ⟨[step], none⟩

/-- Takes steps one by one, up to the first fault. -/
def course : List Step → Course
  | [] => ⟨[], none⟩
  | step :: rest => (cx.courseOf step).andThen (course rest)

variable {cx : Context} {xs ys : List Step}

theorem course_append (xs ys : List Step) :
    cx.course (xs ++ ys) = (cx.course xs).andThen (cx.course ys) := by
  induction xs with
  | nil => rfl
  | cons step rest ih => rw [List.cons_append, course, course, ih, Course.andThen_assoc]

/-- A run takes all steps, or it is ended by the first step that is misplaced or faults: it stops
before the one and after the other. -/
theorem course_cases (steps : List Step) :
    ((cx.course steps).fault? = none ∧ (cx.course steps).taken = steps ∧
      ∀ step ∈ steps, cx.misplaced? step = none ∧ (cx.alone step).1 = .ok ()) ∨
    ∃ before step after fault, steps = before ++ step :: after ∧
      (∀ earlier ∈ before, cx.misplaced? earlier = none ∧ (cx.alone earlier).1 = .ok ()) ∧
      (cx.course steps).fault? = some fault ∧
      (cx.misplaced? step = some fault ∧ (cx.course steps).taken = before ∨
        cx.misplaced? step = none ∧ (cx.alone step).1 = .error fault ∧
          (cx.course steps).taken = before ++ [step]) := by
  induction steps with
  | nil => exact .inl ⟨rfl, rfl, by simp⟩
  | cons step rest ih =>
      cases hplace : cx.misplaced? step with
      | some fault =>
          refine .inr ⟨[], step, rest, fault, rfl, by simp, ?_⟩
          simp [course, courseOf, hplace, Course.andThen]
      | none =>
          cases halone : (cx.alone step).1 with
          | error fault =>
              refine .inr ⟨[], step, rest, fault, rfl, by simp, ?_⟩
              simp [course, courseOf, hplace, halone, Course.andThen]
          | ok =>
              have hcourse : cx.course (step :: rest) =
                  ⟨step :: (cx.course rest).taken, (cx.course rest).fault?⟩ := by
                simp [course, courseOf, hplace, halone, Course.andThen]
              have hstep : cx.misplaced? step = none ∧ (cx.alone step).1 = .ok () := ⟨hplace, halone⟩
              rw [hcourse]
              rcases ih with ⟨hfault, htaken, hall⟩ | ⟨before, last, after, fault, rfl, hbefore,
                hfault, hlast⟩
              · refine .inl ⟨hfault, by rw [htaken], List.forall_mem_cons.2 ⟨hstep, hall⟩⟩
              · refine .inr ⟨step :: before, last, after, fault, rfl,
                  List.forall_mem_cons.2 ⟨hstep, hbefore⟩, hfault, ?_⟩
                simpa using hlast

/-! ## Checks that follow steps -/

/-- A check has the outcome of the run over some steps, and adds what the steps that are taken
report on their own. -/
def Follows (cx : Context) (c : Check Unit) (steps : List Step) : Prop :=
  c.Yields (cx.course steps).outcome ((cx.course steps).taken.flatMap cx.reportsOf)

theorem follows_nil : cx.Follows (pure ()) [] :=
  Check.yields_pure ()

theorem Follows.bind {c : Check Unit} {f : Unit → Check Unit} (hc : cx.Follows c xs)
    (hf : cx.Follows (f ()) ys) : cx.Follows (c >>= f) (xs ++ ys) := by
  unfold Follows at hc ⊢
  rw [course_append]
  unfold Course.andThen
  unfold Course.outcome at hc
  cases hfault : (cx.course xs).fault? with
  | some fault =>
      rw [hfault] at hc
      simpa [Course.outcome, hfault] using hc.bind_error
  | none =>
      rw [hfault] at hc
      rw [List.flatMap_append]
      exact hc.bind hf

/-- A loop of checks follows the steps of its rounds, one after another. -/
theorem Follows.forM {ι : Type} {items : List ι} {check : ι → Check Unit} {segment : ι → List Step}
    (h : ∀ x ∈ items, cx.Follows (check x) (segment x)) :
    cx.Follows (items.forM check) (items.flatMap segment) := by
  induction items with
  | nil => exact follows_nil
  | cons x rest ih =>
      have hrest := ih fun y hy => h y (List.mem_cons_of_mem x hy)
      exact (h x List.mem_cons_self).bind hrest

/-- Checking the requirement of a step only appends, so it does what the step does on its own. -/
theorem checkRequirement_follows (step : Step) (hplace : cx.misplaced? step = none) :
    cx.Follows (cx.checkRequirement step.declaration step.requirement) [step] := by
  have hyields := (cx.checkRequirement_appends step.declaration step.requirement).yields
  unfold Follows
  rw [course, course, Course.andThen_done, courseOf, hplace]
  change Check.Yields _ (cx.alone step).1 (cx.reportsOf step) at hyields
  cases halone : (cx.alone step).1 with
  | error fault => simpa [Course.outcome, halone] using hyields
  | ok => simpa [Course.outcome, halone] using hyields

/-- The check of a pair follows the steps of the pair. Every tag requires something, so a pair whose
declaration the tag does not accept has a first step, and the run ends before it. -/
theorem check_follows {tag : Tag} {d : DeclId} {decl : Declaration}
    (h : cx.program.declarations[d]? = some decl) :
    cx.Follows (cx.check tag d) (stepsOf tag d) := by
  have hplace (r : Requirement) : cx.misplaced? ⟨tag, d, r⟩ =
      if tag.accepts decl.kind then none
      else some (.unexpectedTarget tag decl.kind decl.name) := by
    simp [misplaced?, h]
  by_cases hkind : tag.accepts decl.kind = true
  · unfold check stepsOf
    refine Check.Yields.ask_bind (Program.declaration_eq h) ?_
    rw [if_pos hkind, List.map_eq_flatMap]
    refine Follows.forM fun r _ => ?_
    exact checkRequirement_follows ⟨tag, d, r⟩ (by rw [hplace, if_pos hkind])
  · have hcontract : ∃ r rest, tag.contract = r :: rest := by
      cases tag <;> exact ⟨_, _, rfl⟩
    obtain ⟨r, rest, hcontract⟩ := hcontract
    unfold Follows stepsOf
    rw [hcontract, List.map_cons, course, courseOf, hplace, if_neg hkind]
    exact check_misplaced h (Bool.eq_false_iff.2 hkind)

theorem steps_eq : cx.steps = cx.pairs.flatMap fun pair => stepsOf pair.1 pair.2 := by
  simp [steps, pairs, List.flatMap_assoc, List.flatMap_map]

/-- The pairs of a round, without their tags, are the declarations that carry each tag. -/
theorem map_snd_pairs : cx.pairs.map Prod.snd = Tag.all.flatMap cx.tagged := by
  simp [pairs, List.map_flatMap, Function.comp_def]

theorem summary_eq : cx.summary = {
    tags := (Tag.all.filter fun tag => cx.tagged tag ≠ []).length
    checked := (Tag.all.flatMap cx.tagged).length } := by
  have hcarried (tag : Tag) : (! (cx.tagged tag).isEmpty) = decide (cx.tagged tag ≠ []) := by
    cases cx.tagged tag <;> simp
  rw [← map_snd_pairs, List.length_map]
  simp only [summary, List.countP_eq_length_filter, hcarried]

/-- A round over pairs of tags and declarations that are there follows its steps. -/
theorem pairs_follow
    (hdecl : ∀ pair ∈ cx.pairs, ∃ decl, cx.program.declarations[pair.2]? = some decl) :
    cx.Follows (cx.pairs.forM fun (tag, d) => cx.check tag d) cx.steps := by
  rw [steps_eq]
  refine Follows.forM fun pair hpair => ?_
  obtain ⟨decl, hdecl⟩ := hdecl pair hpair
  exact check_follows hdecl

end Context

namespace Program

/-- A round over any program that edits lead to is the run over its steps: it adds, in the order of
the steps that are taken, what each of them reports on its own, to whatever was reported before. It
ends in the fault of the run; without one, its summary counts the tags that something carries and
the pairs of a tag and a declaration listed for it. -/
theorem validate_of_applyAll {edits : List Edit} {p : Program} {profile : Profile} {cx : Context}
    (h : Program.initial.applyAll edits = some p) (hcx : Context.ofProgram p profile = .ok cx)
    (prior : Diagnostics) :
    cx.validate.after prior =
      (match (cx.course cx.steps).fault? with
        | some fault => .error fault
        | none => .ok {
            tags := (Tag.all.filter fun tag => cx.tagged tag ≠ []).length
            checked := (Tag.all.flatMap cx.tagged).length },
        prior ++ (cx.course cx.steps).taken.flatMap cx.reportsOf) := by
  have hp := (built_of_applyAll h).attached
  obtain ⟨rfl, rfl, hresolved⟩ := Context.ofProgram_eq_ok_iff.1 hcx
  have hdecl : ∀ pair ∈ cx.pairs, ∃ decl, cx.program.declarations[pair.2]? = some decl := by
    intro (tag, d) hpair
    exact ((Context.mem_tagged_iff hp hresolved).1 (Context.mem_pairs_iff.1 hpair)).exists_declaration
  have hpairs := Context.pairs_follow hdecl
  rw [← Context.summary_eq, Context.validate, Check.after_bind, hpairs prior]
  unfold Course.outcome
  cases (cx.course cx.steps).fault? with
  | some fault => rfl
  | none => rfl

/-- A factory method that stands in a method, which has no type for it to return. -/
def factoryExample : List Edit :=
  [Profile.default.fmlEvent, Profile.default.event, Profile.default.modMetadata,
    Profile.default.side, Tag.instanceFactory.annotationName .default].map (.declareType · []) ++
  [.declareClass none "a.Example" [] (.ofList []), .declareMethod 0 "outer" (.ofList []) [] 0,
    .declareMethod 1 "create" (.ofList []) [] 0, .attach 2 15 []]

/-- Of its six requirements the fifth faults. The reports of the three before it that are not met
stay, and the sixth is not checked. -/
theorem exists_validate_factoryExample :
    ∃ p cx, Program.initial.applyAll factoryExample = some p ∧
      Context.ofProgram p .default = .ok cx ∧ cx.steps.length = 6 ∧
      (cx.course cx.steps).taken = cx.steps.take 5 ∧
      ∃ reported : Diagnostics, reported.length = 3 ∧ ∀ prior, cx.validate.after prior =
        (.error (.program (.noDeclaredType .method "outer")), prior ++ reported) := by
  have hrun : (Program.initial.applyAll factoryExample).any (fun p =>
      ((Context.ofProgram p .default).toOption.any fun cx =>
        cx.steps.length = 6 && (cx.course cx.steps).taken = cx.steps.take 5 &&
          ((cx.course cx.steps).taken.flatMap cx.reportsOf).length = 3 &&
          (cx.course cx.steps).fault? =
            some (.program (.noDeclaredType .method "outer")))) = true := by
    decide +kernel
  obtain ⟨p, hp, hfacts⟩ := (Option.any_eq_true _ _).1 hrun
  obtain ⟨cx, hcx, hfacts⟩ := (Option.any_eq_true _ _).1 hfacts
  simp only [Bool.and_eq_true, decide_eq_true_eq] at hfacts
  obtain ⟨⟨⟨hsteps, htaken⟩, hreported⟩, hfault⟩ := hfacts
  have hcontext := toOption_eq_some_iff.1 hcx
  refine ⟨p, cx, hp, hcontext, hsteps, htaken, _, hreported, fun prior => ?_⟩
  rw [validate_of_applyAll hp hcontext prior, hfault]

end Program

end ModContracts
