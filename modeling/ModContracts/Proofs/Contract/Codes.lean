import ModContracts.Contract
import ModContracts.Proofs.Contract.Judged

/-!
# What each requirement can report

The codes of all reports of a requirement are known from the requirement alone, whatever the program is
and whether the check faults or not. So the reports of one code can be told apart from those of all other
requirements.

* `Check.Emits` — a check whose reports have some of the given codes, with the laws of its parts;
* `Requirement.codes` — the codes of a requirement;
* `Context.checkRequirement_emits` — it reports no others.
-/

namespace ModContracts

namespace Check

variable {α β : Type} {c : Check α} {f : α → Check β} {codes others : List Code}

/-- A check adds the same reports whatever was reported before it, and only with the given codes. -/
def Emits (c : Check α) (codes : List Code) : Prop :=
  ∃ outcome ds, c.Yields outcome ds ∧ ∀ found ∈ ds, found.code ∈ codes

theorem Emits.code_mem (h : c.Emits codes) {found : Diagnostic} (hfound : found ∈ c.reported) :
    found.code ∈ codes := by
  obtain ⟨outcome, ds, hyields, hcodes⟩ := h
  rw [hyields.reported_eq] at hfound
  exact hcodes found hfound

theorem Emits.mono (h : c.Emits codes) (hsubset : codes ⊆ others) : c.Emits others := by
  obtain ⟨outcome, ds, hyields, hcodes⟩ := h
  exact ⟨outcome, ds, hyields, fun found hfound => hsubset (hcodes found hfound)⟩

/-- What reports nothing emits no code. -/
theorem Yields.emits_nil {outcome : Except CheckFault α} (h : c.Yields outcome []) :
    c.Emits codes :=
  ⟨outcome, [], h, by simp⟩

theorem emits_pure (a : α) : (pure a : Check α).Emits codes :=
  (yields_pure a).emits_nil

theorem emits_throw (fault : CheckFault) : (throw fault : Check α).Emits codes :=
  (yields_throw fault).emits_nil

theorem Emits.bind (hc : c.Emits codes) (hf : ∀ a, (f a).Emits codes) : (c >>= f).Emits codes := by
  obtain ⟨outcome, ds, hyields, hcodes⟩ := hc
  cases outcome with
  | error fault => exact ⟨_, ds, hyields.bind_error, hcodes⟩
  | ok a =>
      obtain ⟨_, es, hyields', hcodes'⟩ := hf a
      exact ⟨_, ds ++ es, hyields.bind hyields', List.forall_mem_append.2 ⟨hcodes, hcodes'⟩⟩

/-- A query emits nothing, whether it has an answer or not. -/
theorem Emits.ask_bind {answer : Answer α} (hf : ∀ a, (f a).Emits codes) :
    (ask answer >>= f).Emits codes := by
  cases answer with
  | ok a => exact hf a
  | error fault => exact emits_throw (.program fault)

theorem Emits.forM {ι : Type} {xs : List ι} {check : ι → Check Unit}
    (h : ∀ x, (check x).Emits codes) : (xs.forM check).Emits codes := by
  induction xs with
  | nil => exact emits_pure ()
  | cons x rest ih => exact (h x).bind fun _ => ih

theorem Emits.unless {met : Prop} [Decidable met] {c : Check Unit} (hc : c.Emits codes) :
    (if met then pure () else c : Check Unit).Emits codes := by
  split
  · exact emits_pure ()
  · exact hc

/-- A comparison emits the code that it tells when it fails. -/
theorem Judges.emits {met : Answer Bool} {telling : Answer Diagnostic}
    (h : c.Judges met telling) (hcode : ∀ found, telling = .ok found → found.code ∈ codes) :
    c.Emits codes := by
  cases hmet : met with
  | error fault => exact (h.unanswered fault hmet).emits_nil
  | ok answer =>
      cases answer with
      | true =>
          obtain ⟨a, hyields⟩ := h.silent hmet
          exact hyields.emits_nil
      | false =>
          cases htelling : telling with
          | error fault => exact (h.untold fault hmet htelling).emits_nil
          | ok found =>
              obtain ⟨a, hyields⟩ := h.told found hmet htelling
              exact ⟨_, _, hyields, List.forall_mem_singleton.2 (hcode found htelling)⟩

end Check

open Check

theorem Code.code_of_tell {code : Code} {subject expected : Answer String} {anchor : Anchor}
    {found : Diagnostic} (h : code.tell subject expected anchor = .ok found) :
    found.code = code := by
  obtain ⟨subject, -, h⟩ := bind_eq_ok_iff.1 h
  obtain ⟨expected, -, h⟩ := bind_eq_ok_iff.1 h
  obtain rfl := pure_eq_ok_iff.1 h
  rfl

/-- The codes a requirement can report. -/
def Requirement.codes : Requirement → List Code
  | .modifier m required => (modifierCode? m required).toList
  | .staticIfNested => [.nonStatic]
  | .plainConstructor => [.missingConstructor, .nonPublic]
  | .ownerCarries _ => [.ownerNotTagged]
  | .parameters _ => [.invalidParameters]
  | .returns _ | .returnsOwner => [.invalidReturn]
  | .elementCount _ _ _ => [.notEnough, .tooMany]
  | .holds _ => [.notAssignable]
  | .instanceOf _ => [.notSubtype]
  | .instanceType => [.notAssignable, .notSame]
  | .proxyClasses => [.notFound, .notAssignable, .missingConstructor, .nonPublic]

namespace Context

variable (cx : Context) (d : DeclId)

/-- A comparison that is told with one code. -/
theorem emits_comparison {α : Type} (actual : Answer α) (met : α → Bool)
    (subject expected : Answer String) (code : Code) (anchor : Anchor) :
    (do
      let a ← ask actual
      if met a then return
      let subject ← ask subject
      let expected ← ask expected
      report code subject expected anchor : Check Unit).Emits [code] :=
  (judges_comparison actual met subject expected code anchor).emits fun _ htelling =>
    List.mem_singleton.2 (Code.code_of_tell htelling)

theorem ensureModifier_emits (m : Modifier) (required : Bool) :
    (cx.ensureModifier d m required).Emits (modifierCode? m required).toList := by
  cases hcode : modifierCode? m required with
  | none =>
      have hjudges := cx.ensureModifier_judges_none d hcode (.error (.unknownType 0))
      exact hjudges.emits fun _ htelling => nomatch htelling
  | some code =>
      refine (cx.ensureModifier_judges d hcode).emits fun found htelling => ?_
      simp [Code.code_of_tell htelling]

theorem ensureConstructor_emits (parameters : List TypeId) (anchor? : Option Anchor) :
    (cx.ensureConstructor d parameters anchor?).Emits [.missingConstructor, .nonPublic] := by
  refine (cx.ensureConstructor_judges d parameters anchor?).emits fun found htelling => ?_
  obtain ⟨members, -, htelling⟩ := bind_eq_ok_iff.1 htelling
  obtain ⟨first?, -, htelling⟩ := bind_eq_ok_iff.1 htelling
  cases first? with
  | some first => simp [Code.code_of_tell htelling]
  | none => simp [Code.code_of_tell htelling]

theorem ensureAssignable_emits (source : TypeId) :
    (cx.ensureAssignable d source).Emits [.notAssignable] :=
  emits_comparison _ _ _ _ _ _

theorem ensureReturn_emits (type : TypeId) : (cx.ensureReturn d type).Emits [.invalidReturn] :=
  emits_comparison _ _ _ _ _ _

theorem ensureOwnerCarries_emits (tag : Tag) :
    (cx.ensureOwnerCarries d tag).Emits [.ownerNotTagged] := by
  refine (cx.ensureOwnerCarries_judges d tag).emits fun found htelling => ?_
  simp [Code.code_of_tell htelling]

theorem ensureElementCount_emits (tag : Tag) (low high : Nat) :
    (cx.ensureElementCount d tag low high).Emits [.notEnough, .tooMany] := by
  refine (cx.ensureElementCount_judges d tag low high).emits fun found htelling => ?_
  obtain ⟨count, -, htelling⟩ := bind_eq_ok_iff.1 htelling
  rw [Code.code_of_tell htelling]
  split <;> simp

theorem ensureClassExists_emits (a : AttachmentId) (name : String) :
    (cx.ensureClassExists d a name).Emits [.notFound] := by
  refine (cx.ensureClassExists_judges d a name).emits fun found htelling => ?_
  obtain ⟨attached, -, rfl⟩ := map_eq_ok_iff.1 htelling
  exact List.mem_singleton.2 rfl

/-! ## Values of the tag's own attachment -/

theorem tagAttachment_emits (tag : Tag) {codes : List Code} :
    (cx.tagAttachment d tag).Emits codes := by
  unfold tagAttachment
  cases cx.framework.tagType? tag with
  | none => exact .ask_bind fun decl => emits_throw _
  | some type =>
      refine .ask_bind fun found? => ?_
      cases found? with
      | none => exact .ask_bind fun decl => emits_throw _
      | some a => exact emits_pure a

theorem ensureInstanceType_emits :
    (cx.ensureInstanceType d).Emits [.notAssignable, .notSame] := by
  unfold ensureInstanceType
  refine (cx.tagAttachment_emits d .modInstance).bind fun a => .ask_bind fun attached => ?_
  refine .unless <| .ask_bind fun owner => .ask_bind fun type => Emits.bind ?_ fun _ => ?_
  · exact (cx.ensureAssignable_emits d type).mono (by simp)
  · exact (emits_comparison _ _ _ _ _ _).mono (by simp)

theorem resolveSides_emits (a : AttachmentId) (sides : List String) :
    (cx.resolveSides d a sides).Emits [.notFound] := by
  induction sides with
  | nil => exact emits_pure []
  | cons side rest ih =>
      refine (cx.ensureClassExists_emits d a side).bind fun found? => ih.bind fun others => ?_
      exact emits_pure _

theorem ensureProxyClasses_emits : (cx.ensureProxyClasses d).Emits
    [.notFound, .notAssignable, .missingConstructor, .nonPublic] := by
  unfold ensureProxyClasses
  refine (cx.tagAttachment_emits d .sidedProxy).bind fun a => .ask_bind fun attached => ?_
  refine ((cx.resolveSides_emits d a _).mono (by simp)).bind fun resolved => Emits.bind ?_ fun _ => ?_
  · exact Emits.forM fun side => (cx.ensureAssignable_emits d side.2).mono (by simp)
  · refine Emits.forM fun (side, type) => ?_
    dsimp only
    cases cx.program.introducing? type with
    | none => exact emits_pure ()
    | some proxy =>
        exact (cx.ensureConstructor_emits proxy [] (some (.value d a side))).mono (by simp)

/-! ## Requirements -/

/-- What a requirement reports has one of its codes. -/
theorem checkRequirement_emits (r : Requirement) : (cx.checkRequirement d r).Emits r.codes := by
  cases r with
  | modifier m required => exact cx.ensureModifier_emits d m required
  | staticIfNested =>
      refine .ask_bind fun enclosing? => ?_
      cases enclosing? with
      | none => exact emits_pure ()
      | some owner => exact cx.ensureModifier_emits d .isStatic true
  | plainConstructor => exact cx.ensureConstructor_emits d [] none
  | ownerCarries tag => exact cx.ensureOwnerCarries_emits d tag
  | parameters types => exact emits_comparison _ _ _ _ _ _
  | returns type => exact cx.ensureReturn_emits d _
  | returnsOwner =>
      exact .ask_bind fun owner => .ask_bind fun type => cx.ensureReturn_emits d type
  | elementCount tag low high => exact cx.ensureElementCount_emits d tag low high
  | holds type => exact cx.ensureAssignable_emits d _
  | instanceOf type => exact emits_comparison _ _ _ _ _ _
  | instanceType => exact cx.ensureInstanceType_emits d
  | proxyClasses => exact cx.ensureProxyClasses_emits d

end Context

end ModContracts
