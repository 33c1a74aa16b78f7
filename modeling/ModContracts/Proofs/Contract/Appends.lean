import ModContracts.Contract
import ModContracts.Proofs.Check

/-!
# Checks only append

No check of the rules reads or takes back what was reported before it: whatever the program and the
framework are, and whether it faults or not, it has the outcome and adds the reports that it has on
its own.

* `Check.Appends` — such a check, with the laws of its parts;
* `Context.ensureModifier_appends` and the other lemmas of this form — one for each fact that
  requirements are made of;
* `Context.checkRequirement_appends` — every requirement is checked in this way.
-/

namespace ModContracts

namespace Check

variable {α β : Type} {c : Check α} {f : α → Check β}

/-- A check has one outcome and adds the same reports, whatever was reported before it. -/
def Appends (c : Check α) : Prop :=
  ∃ outcome ds, c.Yields outcome ds

/-- What such a check does after other reports is what it does on its own. -/
theorem Appends.yields (h : c.Appends) : c.Yields (c.after []).1 c.reported := by
  obtain ⟨outcome, ds, hyields⟩ := h
  rwa [hyields.reported_eq, hyields []]

theorem appends_pure (a : α) : (pure a : Check α).Appends :=
  ⟨_, _, yields_pure a⟩

theorem appends_throw (fault : CheckFault) : (throw fault : Check α).Appends :=
  ⟨_, _, yields_throw fault⟩

theorem appends_report (code : Code) (subject expected : String) (anchor : Anchor) :
    (report code subject expected anchor).Appends :=
  ⟨_, _, yields_report code subject expected anchor⟩

/-- A query may have an answer or not. -/
theorem appends_ask (answer : Answer α) : (ask answer).Appends := by
  cases answer with
  | ok a => exact appends_pure a
  | error fault => exact appends_throw (.program fault)

theorem Appends.bind (hc : c.Appends) (hf : ∀ a, (f a).Appends) : (c >>= f).Appends := by
  obtain ⟨outcome, ds, hyields⟩ := hc
  cases outcome with
  | error fault => exact ⟨_, _, hyields.bind_error⟩
  | ok a =>
      obtain ⟨_, _, hyields'⟩ := hf a
      exact ⟨_, _, hyields.bind hyields'⟩

theorem Appends.ask_bind {answer : Answer α} (hf : ∀ a, (f a).Appends) :
    (ask answer >>= f).Appends :=
  (appends_ask answer).bind hf

theorem Appends.forM {ι : Type} {xs : List ι} {check : ι → Check Unit}
    (h : ∀ x, (check x).Appends) : (xs.forM check).Appends := by
  induction xs with
  | nil => exact appends_pure ()
  | cons x rest ih => exact (h x).bind fun _ => ih

/-- A comparison before a check that only appends. -/
theorem Appends.unless {met : Prop} [Decidable met] {c : Check Unit} (hc : c.Appends) :
    (if met then pure () else c : Check Unit).Appends := by
  split
  · exact appends_pure ()
  · exact hc

/-- A question whose answer is compared, and reported on unless the comparison is met. -/
theorem appends_comparison (actual : Answer α) (met : α → Bool) (subject expected : Answer String)
    (code : Code) (anchor : Anchor) :
    (do
      let a ← ask actual
      if met a then return
      let subject ← ask subject
      let expected ← ask expected
      report code subject expected anchor : Check Unit).Appends :=
  .ask_bind fun _ => .unless <| .ask_bind fun subject => .ask_bind fun expected =>
    appends_report code subject expected anchor

end Check

open Check

namespace Context

variable (cx : Context) (d : DeclId)

theorem reportOn_appends (code : Code) (expected : String) :
    (cx.reportOn d code expected).Appends :=
  .ask_bind fun subject => appends_report code subject expected (.declaration d)

theorem ensureModifier_appends (m : Modifier) (required : Bool) :
    (cx.ensureModifier d m required).Appends := by
  unfold ensureModifier
  refine .ask_bind fun modifiers => .unless ?_
  cases modifierCode? m required with
  | none => exact appends_pure ()
  | some code => exact cx.reportOn_appends d code ""

theorem ensureConstructor_appends (parameters : List TypeId) (anchor? : Option Anchor) :
    (cx.ensureConstructor d parameters anchor?).Appends := by
  unfold ensureConstructor
  refine .ask_bind fun members => .ask_bind fun found? => ?_
  cases found? with
  | none => exact .ask_bind fun subject => .ask_bind fun expected => appends_report _ _ _ _
  | some found => exact cx.ensureModifier_appends found .isPublic true

theorem ensureParameters_appends (parameters : List TypeId) :
    (cx.ensureParameters d parameters).Appends :=
  appends_comparison _ _ _ _ _ _

theorem ensureReturn_appends (type : TypeId) : (cx.ensureReturn d type).Appends :=
  appends_comparison _ _ _ _ _ _

theorem ensureInstanceOf_appends (super : TypeId) : (cx.ensureInstanceOf d super).Appends :=
  appends_comparison _ _ _ _ _ _

theorem ensureAssignable_appends (source : TypeId) : (cx.ensureAssignable d source).Appends :=
  appends_comparison _ _ _ _ _ _

theorem ensureSame_appends (type : TypeId) : (cx.ensureSame d type).Appends :=
  appends_comparison _ _ _ _ _ _

theorem ensureOwnerCarries_appends (tag : Tag) : (cx.ensureOwnerCarries d tag).Appends :=
  .ask_bind fun _ => .ask_bind fun _ => .unless <| cx.reportOn_appends d .ownerNotTagged _

theorem ensureElementCount_appends (tag : Tag) (low high : Nat) :
    (cx.ensureElementCount d tag low high).Appends := by
  unfold ensureElementCount
  refine .ask_bind fun owner => .ask_bind fun members => .ask_bind fun count => ?_
  split
  · exact cx.reportOn_appends d .notEnough _
  · split
    · exact cx.reportOn_appends d .tooMany _
    · exact appends_pure ()

/-! ## Values of the tag's own attachment -/

theorem tagAttachment_appends (tag : Tag) : (cx.tagAttachment d tag).Appends := by
  unfold tagAttachment
  cases cx.framework.tagType? tag with
  | none => exact .ask_bind fun decl => appends_throw _
  | some type =>
      refine .ask_bind fun found? => ?_
      cases found? with
      | none => exact .ask_bind fun decl => appends_throw _
      | some a => exact appends_pure a

theorem ensureClassExists_appends (a : AttachmentId) (name : String) :
    (cx.ensureClassExists d a name).Appends := by
  unfold ensureClassExists
  refine .ask_bind fun attached => ?_
  dsimp only
  cases cx.program.typeId? ((attached.str? name).getD "") with
  | none => exact (appends_report _ _ _ _).bind fun _ => appends_pure none
  | some type => exact appends_pure (some type)

theorem ensureInstanceType_appends : (cx.ensureInstanceType d).Appends := by
  unfold ensureInstanceType
  refine (cx.tagAttachment_appends d .modInstance).bind fun a => .ask_bind fun attached => ?_
  refine .unless <| .ask_bind fun owner => .ask_bind fun type => ?_
  exact (cx.ensureAssignable_appends d type).bind fun _ => cx.ensureSame_appends d type

theorem resolveSides_appends (a : AttachmentId) (sides : List String) :
    (cx.resolveSides d a sides).Appends := by
  induction sides with
  | nil => exact appends_pure []
  | cons side rest ih =>
      refine (cx.ensureClassExists_appends d a side).bind fun found? => ih.bind fun others => ?_
      exact appends_pure _

theorem ensureProxyClasses_appends : (cx.ensureProxyClasses d).Appends := by
  unfold ensureProxyClasses
  refine (cx.tagAttachment_appends d .sidedProxy).bind fun a => .ask_bind fun attached => ?_
  refine (cx.resolveSides_appends d a _).bind fun resolved => Appends.bind ?_ fun _ => ?_
  · exact Appends.forM fun side => cx.ensureAssignable_appends d side.2
  · refine Appends.forM fun (side, type) => ?_
    dsimp only
    cases cx.program.introducing? type with
    | none => exact appends_pure ()
    | some proxy => exact cx.ensureConstructor_appends proxy [] (some (.value d a side))

/-! ## Requirements -/

/-- Checking a requirement, on whichever declaration, only appends. -/
theorem checkRequirement_appends (r : Requirement) : (cx.checkRequirement d r).Appends := by
  cases r with
  | modifier m required => exact cx.ensureModifier_appends d m required
  | staticIfNested =>
      refine .ask_bind fun enclosing? => ?_
      cases enclosing? with
      | none => exact appends_pure ()
      | some owner => exact cx.ensureModifier_appends d .isStatic true
  | plainConstructor => exact cx.ensureConstructor_appends d [] none
  | ownerCarries tag => exact cx.ensureOwnerCarries_appends d tag
  | parameters types => exact cx.ensureParameters_appends d _
  | returns type => exact cx.ensureReturn_appends d _
  | returnsOwner =>
      exact .ask_bind fun owner => .ask_bind fun type => cx.ensureReturn_appends d type
  | elementCount tag low high => exact cx.ensureElementCount_appends d tag low high
  | holds type => exact cx.ensureAssignable_appends d _
  | instanceOf type => exact cx.ensureInstanceOf_appends d _
  | instanceType => exact cx.ensureInstanceType_appends d
  | proxyClasses => exact cx.ensureProxyClasses_appends d

end Context

end ModContracts
