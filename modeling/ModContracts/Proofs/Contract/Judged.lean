import ModContracts.Requirement
import ModContracts.Proofs.Check
import ModContracts.Proofs.Results

/-!
# Requirements are told whole or not at all

A requirement compares what a program answers, and tells about a comparison that fails. Either part may
have no answer, whichever ids are asked about. Then the check faults and nothing is reported: what is
reported is always the one diagnostic of a comparison that failed, with all its texts.

* `Code.tell` — the diagnostic of a code, from texts that may have no answer;
* `Check.Tells`, `Check.Judges` — a check that tells a diagnostic, and one that tells it if a comparison
  fails, with their laws;
* `Check.judges_comparison` — a requirement that is one comparison;
* `Context.ensureModifier_judges`, `Context.ensureConstructor_judges` and the other lemmas of this form
  — the requirements that choose what to tell, or that scan a list;
* `Context.Judged`, `Context.requirements_judged` — all of them, over any program and framework.
-/

namespace ModContracts

/-- What is told with a code: a diagnostic, unless one of its texts has no answer. -/
def Code.tell (code : Code) (subject expected : Answer String) (anchor : Anchor) :
    Answer Diagnostic := do
  let subject ← subject
  let expected ← expected
  return code.render subject expected anchor

namespace Check

variable {α β : Type} {c : Check α} {f : β → Check α} {a : α} {met : Answer Bool}
  {telling : Answer Diagnostic} {fault : ProgramFault} {found : Diagnostic}

/-- A check reports a diagnostic, or it faults and reports nothing if that has no answer. -/
structure Tells (c : Check α) (telling : Answer Diagnostic) : Prop where
  told : ∀ found, telling = .ok found → ∃ a, c.Yields (.ok a) [found]
  untold : ∀ fault, telling = .error fault → c.Yields (.error (.program fault)) []

/-- A check reports a diagnostic exactly when a comparison fails; if one of the two has no answer, it
faults and reports nothing. -/
structure Judges (c : Check α) (met : Answer Bool) (telling : Answer Diagnostic) : Prop where
  /-- There is a fault and no report, or a result and at most one report. -/
  atomic : (∃ fault, c.Yields (.error fault) []) ∨ ∃ a ds, c.Yields (.ok a) ds ∧ ds.length ≤ 1
  unanswered : ∀ fault, met = .error fault → c.Yields (.error (.program fault)) []
  silent : met = .ok true → ∃ a, c.Yields (.ok a) []
  told : ∀ found, met = .ok false → telling = .ok found → ∃ a, c.Yields (.ok a) [found]
  untold : ∀ fault, met = .ok false → telling = .error fault →
    c.Yields (.error (.program fault)) []

/-! ## Laws -/

theorem tells_yield (h : c.Yields (.ok a) [found]) : c.Tells (.ok found) where
  told _ htelling := by
    obtain rfl := Except.ok.inj htelling
    exact ⟨a, h⟩
  untold _ htelling := nomatch htelling

theorem tells_throw (fault : ProgramFault) :
    (throw (.program fault) : Check α).Tells (.error fault) where
  told _ htelling := nomatch htelling
  untold _ htelling := by
    obtain rfl := Except.error.inj htelling
    exact yields_throw _

/-- A query for a text, before a report. -/
theorem Tells.ask_bind {answer : Answer β} {telling : β → Answer Diagnostic}
    (h : ∀ b, (f b).Tells (telling b)) : (ask answer >>= f).Tells (answer >>= telling) := by
  cases answer with
  | ok b => exact h b
  | error fault => exact tells_throw fault

theorem judges_met (h : c.Yields (.ok a) []) : c.Judges (.ok true) telling where
  atomic := .inr ⟨a, [], h, Nat.zero_le 1⟩
  unanswered _ hmet := nomatch hmet
  silent _ := ⟨a, h⟩
  told _ hmet := nomatch hmet
  untold _ hmet := nomatch hmet

theorem Tells.judges (h : c.Tells telling) : c.Judges (.ok false) telling where
  atomic := by
    cases htelling : telling with
    | error fault => exact .inl ⟨_, h.untold fault htelling⟩
    | ok found =>
        obtain ⟨a, hyields⟩ := h.told found htelling
        exact .inr ⟨a, [found], hyields, Nat.le_refl 1⟩
  unanswered _ hmet := nomatch hmet
  silent hmet := nomatch hmet
  told found _ := h.told found
  untold fault _ := h.untold fault

/-- A comparison that has an answer, before a report. -/
theorem Tells.unless (h : c.Tells telling) (b : Bool) (a : α) :
    (if b = true then pure a else c : Check α).Judges (.ok b) telling := by
  cases b with
  | true => exact judges_met (yields_pure a)
  | false => exact h.judges

theorem judges_throw (fault : ProgramFault) :
    (throw (.program fault) : Check α).Judges (.error fault) telling where
  atomic := .inl ⟨_, yields_throw _⟩
  unanswered other hmet := by
    obtain rfl := Except.error.inj hmet
    exact yields_throw _
  silent hmet := nomatch hmet
  told _ hmet := nomatch hmet
  untold _ hmet := nomatch hmet

/-- A query before a comparison. -/
theorem Judges.ask_bind {answer : Answer β} {met : β → Answer Bool}
    (h : ∀ b, answer = .ok b → (f b).Judges (met b) telling) :
    (ask answer >>= f).Judges (answer >>= met) telling := by
  cases answer with
  | ok b => exact h b rfl
  | error fault => exact judges_throw fault

/-- Two queries in a row are one. -/
theorem ask_bind_ask {γ : Type} (answer : Answer γ) (next : γ → Answer β) (f : β → Check α) :
    (ask answer >>= fun x => ask (next x) >>= f) = ask (answer >>= next) >>= f := by
  cases answer <;> rfl

/-- A question whose answer is compared, and told about unless the comparison is met. -/
theorem judges_comparison (actual : Answer β) (met : β → Bool) (subject expected : Answer String)
    (code : Code) (anchor : Anchor) :
    (do
      let b ← ask actual
      if met b then return
      let subject ← ask subject
      let expected ← ask expected
      report code subject expected anchor : Check Unit).Judges
      (actual.map met) (code.tell subject expected anchor) := by
  have htells : (do
      let subject ← ask subject
      let expected ← ask expected
      report code subject expected anchor : Check Unit).Tells
      (code.tell subject expected anchor) :=
    .ask_bind fun subject => .ask_bind fun expected =>
      tells_yield (yields_report code subject expected anchor)
  exact .ask_bind fun b _ => htells.unless (met b) ()

end Check

open Check

namespace Context

variable (cx : Context) (d : DeclId)

/-! ## Reports on declarations -/

theorem reportOn_tells (code : Code) (expected : String) :
    (cx.reportOn d code expected).Tells
      (code.tell (cx.program.describe d) (.ok expected) (.declaration d)) :=
  .ask_bind fun subject => tells_yield (yields_report code subject expected (.declaration d))

theorem ensureModifier_judges {m : Modifier} {required : Bool} {code : Code}
    (h : modifierCode? m required = some code) :
    (cx.ensureModifier d m required).Judges
      ((cx.program.modifiersOf d).map fun set => set.has m = required)
      (code.tell (cx.program.describe d) (.ok "") (.declaration d)) := by
  unfold ensureModifier
  rw [h]
  refine .ask_bind fun set _ => ?_
  simpa using (cx.reportOn_tells d code "").unless (decide (set.has m = required)) ()

/-- A modifier that is not there and need not be, or need not be missing, is not told about. -/
theorem ensureModifier_judges_none {m : Modifier} {required : Bool}
    (h : modifierCode? m required = none) (telling : Answer Diagnostic) :
    (cx.ensureModifier d m required).Judges
      ((cx.program.modifiersOf d).map fun _ => true) telling := by
  unfold ensureModifier
  rw [h]
  refine .ask_bind fun set _ => judges_met (a := ()) ?_
  split <;> exact yields_pure ()

/-! ## Constructors -/

/-- Whether a declaration has a constructor for some parameters, and the first one is public. -/
def constructorMet (parameters : List TypeId) : Answer Bool := do
  match ← cx.firstConstructor parameters (← cx.program.membersOf d) with
  | some found => (cx.program.modifiersOf found).map fun set => set.has .isPublic = true
  | none => return false

/-- What is told about the constructors of a declaration: the first one, or that there is none. -/
def constructorTelling (parameters : List TypeId) (anchor? : Option Anchor) :
    Answer Diagnostic := do
  match ← cx.firstConstructor parameters (← cx.program.membersOf d) with
  | some found => Code.nonPublic.tell (cx.program.describe found) (.ok "") (.declaration found)
  | none =>
    Code.missingConstructor.tell (cx.program.describe d) (cx.signatureText parameters)
      (anchor?.getD (.declaration d))

theorem ensureConstructor_judges (parameters : List TypeId) (anchor? : Option Anchor) :
    (cx.ensureConstructor d parameters anchor?).Judges (cx.constructorMet d parameters)
      (cx.constructorTelling d parameters anchor?) := by
  unfold ensureConstructor constructorMet constructorTelling
  refine .ask_bind fun members hmembers => .ask_bind fun found? hfound => ?_
  rw [hmembers, ok_bind, hfound, ok_bind]
  cases found? with
  | some found => exact cx.ensureModifier_judges found rfl
  | none =>
      refine Tells.judges (.ask_bind fun subject => .ask_bind fun expected => ?_)
      exact tells_yield (yields_report _ _ _ _)

/-! ## Tags and values -/

theorem ensureOwnerCarries_judges (tag : Tag) :
    (cx.ensureOwnerCarries d tag).Judges
      (cx.program.ownerOf d >>= fun owner => cx.carries owner tag)
      (Code.ownerNotTagged.tell (cx.program.describe d) (.ok ("@" ++ tag.name))
        (.declaration d)) := by
  refine .ask_bind fun owner _ => ?_
  cases cx.carries owner tag with
  | ok carried => exact (cx.reportOn_tells d .ownerNotTagged ("@" ++ tag.name)).unless carried ()
  | error fault => exact judges_throw fault

theorem ensureClassExists_judges (a : AttachmentId) (name : String) :
    (cx.ensureClassExists d a name).Judges
      ((cx.program.attachment a).map fun attached =>
        (cx.program.typeId? ((attached.str? name).getD "")).isSome)
      ((cx.program.attachment a).map fun attached =>
        Code.notFound.render ("Class " ++ (attached.str? name).getD "") "" (.value d a name)) := by
  unfold ensureClassExists
  refine .ask_bind fun attached hattached => ?_
  rw [hattached]
  dsimp only
  cases cx.program.typeId? ((attached.str? name).getD "") with
  | some type => exact judges_met (yields_pure (some type))
  | none =>
      refine Tells.judges (tells_yield (a := none) ?_)
      exact (yields_report _ _ _ _).bind (yields_pure none)

/-- How many of the declarations beside a declaration, itself included, carry a tag. -/
def countBeside (tag : Tag) : Answer Nat := do
  let owner ← cx.program.ownerOf d
  let members ← cx.program.membersOf owner
  cx.countCarrying tag members

theorem ensureElementCount_judges (tag : Tag) (low high : Nat) :
    (cx.ensureElementCount d tag low high).Judges
      ((cx.countBeside d tag).map fun count => low ≤ count ∧ count ≤ high)
      (cx.countBeside d tag >>= fun count =>
        (if count < low then Code.notEnough else Code.tooMany).tell (cx.program.describe d)
          (.ok (tag.annotationName cx.framework.profile)) (.declaration d)) := by
  have hone : cx.ensureElementCount d tag low high = ask (cx.countBeside d tag) >>= fun count =>
      if count < low then cx.reportOn d .notEnough (tag.annotationName cx.framework.profile)
      else if count > high then cx.reportOn d .tooMany (tag.annotationName cx.framework.profile)
      else return := by
    unfold countBeside
    simp only [← ask_bind_ask]
    rfl
  rw [hone]
  refine .ask_bind fun count hcount => ?_
  rw [hcount, ok_bind]
  dsimp only
  by_cases hlow : count < low
  · have hmet : decide (low ≤ count ∧ count ≤ high) = false := by simp; omega
    rw [hmet, if_pos hlow, if_pos hlow]
    exact (cx.reportOn_tells d .notEnough _).judges
  · rw [if_neg hlow, if_neg hlow]
    by_cases hhigh : count > high
    · have hmet : decide (low ≤ count ∧ count ≤ high) = false := by simp; omega
      rw [hmet, if_pos hhigh]
      exact (cx.reportOn_tells d .tooMany _).judges
    · have hmet : decide (low ≤ count ∧ count ≤ high) = true := by simp; omega
      rw [hmet, if_neg hhigh]
      exact judges_met (yields_pure ())

/-! ## All requirements -/

/-- Every requirement, whatever it is asked of, judges one comparison and tells one diagnostic. -/
structure Judged (cx : Context) : Prop where
  modifier : ∀ d m required code, modifierCode? m required = some code →
    (cx.ensureModifier d m required).Judges
      ((cx.program.modifiersOf d).map fun set => set.has m = required)
      (code.tell (cx.program.describe d) (.ok "") (.declaration d))
  /-- A modifier that need neither be there nor be missing is not told about. -/
  anyModifier : ∀ d m required, modifierCode? m required = none → ∀ telling,
    (cx.ensureModifier d m required).Judges
      ((cx.program.modifiersOf d).map fun _ => true) telling
  constructors : ∀ d parameters anchor?,
    (cx.ensureConstructor d parameters anchor?).Judges (cx.constructorMet d parameters)
      (cx.constructorTelling d parameters anchor?)
  parameters : ∀ d parameters,
    (cx.ensureParameters d parameters).Judges
      ((cx.program.parametersOf d).map fun actual => cx.signatureMatches actual parameters)
      (Code.invalidParameters.tell (cx.program.describe d) (cx.signatureText parameters)
        (.declaration d))
  returns : ∀ d type,
    (cx.ensureReturn d type).Judges
      ((cx.program.returnTypeOf d).map fun actual => cx.program.isSameType actual type)
      (Code.invalidReturn.tell (cx.program.describe d) (cx.program.typeName type)
        (.declaration d))
  instanceOf : ∀ d super,
    (cx.ensureInstanceOf d super).Judges
      ((cx.program.typeOf d).map fun actual => cx.program.isSubtype actual super)
      (Code.notSubtype.tell (cx.program.describe d) (cx.program.simpleTypeName super)
        (.declaration d))
  assignable : ∀ d source,
    (cx.ensureAssignable d source).Judges
      ((cx.program.typeOf d).map fun target => cx.program.isAssignable source target)
      (Code.notAssignable.tell (cx.program.describe d) (cx.program.simpleTypeName source)
        (.declaration d))
  same : ∀ d type,
    (cx.ensureSame d type).Judges
      ((cx.program.typeOf d).map fun actual => cx.program.isSameType actual type)
      (Code.notSame.tell (cx.program.describe d) (cx.program.simpleTypeName type)
        (.declaration d))
  ownerCarries : ∀ d tag,
    (cx.ensureOwnerCarries d tag).Judges
      (cx.program.ownerOf d >>= fun owner => cx.carries owner tag)
      (Code.ownerNotTagged.tell (cx.program.describe d) (.ok ("@" ++ tag.name))
        (.declaration d))
  classExists : ∀ d a name,
    (cx.ensureClassExists d a name).Judges
      ((cx.program.attachment a).map fun attached =>
        (cx.program.typeId? ((attached.str? name).getD "")).isSome)
      ((cx.program.attachment a).map fun attached =>
        Code.notFound.render ("Class " ++ (attached.str? name).getD "") "" (.value d a name))
  elementCount : ∀ d tag low high,
    (cx.ensureElementCount d tag low high).Judges
      ((cx.countBeside d tag).map fun count => low ≤ count ∧ count ≤ high)
      (cx.countBeside d tag >>= fun count =>
        (if count < low then Code.notEnough else Code.tooMany).tell (cx.program.describe d)
          (.ok (tag.annotationName cx.framework.profile)) (.declaration d))

/-- Over any program and framework, whatever ids it is asked about, a requirement reports nothing when it
faults and at most one diagnostic when it does not, and leaves what was reported before alone. A
comparison that fails without a text to tell it with is a fault. -/
theorem requirements_judged (cx : Context) : cx.Judged where
  modifier d _ _ _ h := cx.ensureModifier_judges d h
  anyModifier d _ _ h := cx.ensureModifier_judges_none d h
  constructors d := cx.ensureConstructor_judges d
  parameters _ _ := judges_comparison _ _ _ _ _ _
  returns _ _ := judges_comparison _ _ _ _ _ _
  instanceOf _ _ := judges_comparison _ _ _ _ _ _
  assignable _ _ := judges_comparison _ _ _ _ _ _
  same _ _ := judges_comparison _ _ _ _ _ _
  ownerCarries d := cx.ensureOwnerCarries_judges d
  classExists d := cx.ensureClassExists_judges d
  elementCount d := cx.ensureElementCount_judges d

end Context

end ModContracts
