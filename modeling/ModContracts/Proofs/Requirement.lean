import ModContracts.Requirement
import ModContracts.Proofs.Diagnostic
import ModContracts.Proofs.Framework

/-!
# What requirements report

Each requirement asks a few queries, compares the answers, and reports at most one diagnostic. When
the queries have answers, it does not fault, and what it reports follows from the answers.

* `Context.ensureModifier_yields` and the other lemmas of this form — one for each requirement;
* `Context.isConstructorFor` — whether a declaration is a constructor for some parameters;
* `Context.modifierReports`, `Context.constructorReports`, `Context.countReports` — what is reported
  where it is more than one diagnostic unless something is met.
-/

namespace ModContracts

open Diagnostics

namespace Context

variable {cx : Context} {d : DeclId} {decl : Declaration}

/-! ## Reports on declarations -/

theorem reportOn_yields (h : cx.program.declarations[d]? = some decl) (code : Code)
    (expected : String) :
    (cx.reportOn d code expected).Yields (.ok ())
      [code.render decl.subject expected (.declaration d)] := by
  unfold reportOn
  refine Check.Yields.ask_bind (Program.describe_eq h) ?_
  exact Check.yields_report code decl.subject expected (.declaration d)

/-- What is reported on a modifier. -/
def modifierReports (d : DeclId) (decl : Declaration) (m : Modifier) (required : Bool) :
    Diagnostics :=
  match modifierCode? m required with
  | some code =>
    verdict (decl.modifiers.has m = required) (code.render decl.subject "" (.declaration d))
  | none => []

theorem ensureModifier_yields (h : cx.program.declarations[d]? = some decl) (m : Modifier)
    (required : Bool) :
    (cx.ensureModifier d m required).Yields (.ok ()) (modifierReports d decl m required) := by
  unfold ensureModifier modifierReports
  refine Check.Yields.ask_bind (Program.modifiersOf_eq h) ?_
  by_cases hmet : decl.modifiers.has m = required
  · rw [if_pos hmet]
    cases modifierCode? m required with
    | none => exact Check.yields_pure ()
    | some code =>
        simp only [verdict, hmet, decide_true, if_true]
        exact Check.yields_pure ()
  · rw [if_neg hmet]
    cases modifierCode? m required with
    | none => exact Check.yields_pure ()
    | some code =>
        simp only [verdict, hmet, decide_false, Bool.false_eq_true, if_false]
        exact reportOn_yields h code ""

/-! ## Signatures -/

/-- A comparison that reports when it fails. -/
theorem yields_verdict {met : Bool} {c : Check Unit} {found : Diagnostic}
    (h : c.Yields (.ok ()) [found]) :
    (if met = true then pure () else c : Check Unit).Yields (.ok ()) (verdict met found) := by
  unfold verdict
  cases met with
  | true => exact Check.yields_pure ()
  | false => exact h

theorem ensureParameters_yields (h : cx.program.declarations[d]? = some decl)
    (hkind : decl.kind.isExecutable = true) {parameters : List TypeId} {text : String}
    (htext : cx.signatureText parameters = .ok text) :
    (cx.ensureParameters d parameters).Yields (.ok ())
      (verdict (cx.signatureMatches decl.parameters parameters)
        (Code.invalidParameters.render decl.subject text (.declaration d))) := by
  unfold ensureParameters
  refine Check.Yields.ask_bind (Program.parametersOf_eq h hkind) (yields_verdict ?_)
  refine Check.Yields.ask_bind (Program.describe_eq h) (Check.Yields.ask_bind htext ?_)
  exact Check.yields_report _ _ _ _

theorem ensureReturn_yields (h : cx.program.declarations[d]? = some decl)
    (hkind : decl.kind.isExecutable = true) {type : TypeId} {name : String}
    (hname : cx.program.typeName type = .ok name) :
    (cx.ensureReturn d type).Yields (.ok ())
      (verdict (cx.program.isSameType (decl.returns?.getD TypeId.void) type)
        (Code.invalidReturn.render decl.subject name (.declaration d))) := by
  unfold ensureReturn
  refine Check.Yields.ask_bind (Program.returnTypeOf_eq h hkind) (yields_verdict ?_)
  refine Check.Yields.ask_bind (Program.describe_eq h) (Check.Yields.ask_bind hname ?_)
  exact Check.yields_report _ _ _ _

/-! ## Constructors -/

/-- Whether a declaration is a constructor that takes parameters of the given types. -/
def isConstructorFor (cx : Context) (parameters : List TypeId) (e : DeclId) : Bool :=
  cx.program.declarations[e]?.any fun member =>
    member.kind = .constructor && cx.signatureMatches member.parameters parameters

theorem signatureText_nil (cx : Context) : cx.signatureText [] = .ok "()" := rfl

theorem firstConstructor_eq {members : List DeclId} (parameters : List TypeId)
    (h : ∀ e ∈ members, ∃ member, cx.program.declarations[e]? = some member) :
    cx.firstConstructor parameters members =
      .ok (members.find? (cx.isConstructorFor parameters)) := by
  induction members with
  | nil => rfl
  | cons e rest ih =>
      obtain ⟨member, hmember⟩ := h e List.mem_cons_self
      have hrest := ih fun e' he' => h e' (List.mem_cons_of_mem e he')
      rw [firstConstructor, Program.declaration_eq hmember]
      -- the two comparisons of the scan are one test on the member
      change (if (member.kind = .constructor && cx.signatureMatches member.parameters parameters)
        = true then .ok (some e) else cx.firstConstructor parameters rest) = _
      rw [hrest, List.find?_cons, isConstructorFor, hmember, Option.any_some]
      cases decide (member.kind = .constructor) && cx.signatureMatches member.parameters parameters
        <;> rfl

/-- What is reported on the constructors of a type declaration: the first that matches may not be
public, or there may be none. -/
def constructorReports (cx : Context) (d : DeclId) (decl : Declaration) (parameters : List TypeId)
    (text : String) (anchor? : Option Anchor) : Diagnostics :=
  match decl.members.find? (cx.isConstructorFor parameters) with
  | some found =>
    match cx.program.declarations[found]? with
    | some member => modifierReports found member .isPublic true
    | none => []
  | none => [Code.missingConstructor.render decl.subject text (anchor?.getD (.declaration d))]

section Constructors

variable (hp : cx.program.WellFormed) (h : cx.program.declarations[d]? = some decl)
  {parameters : List TypeId} {anchor? : Option Anchor}
include hp h

theorem firstConstructor_members :
    cx.firstConstructor parameters decl.members =
      .ok (decl.members.find? (cx.isConstructorFor parameters)) :=
  firstConstructor_eq parameters fun e he =>
    ((hp.members h e).1 he).imp fun _ hmember => hmember.1

/-- A type declaration is told about the first constructor that matches, or about a missing one. -/
theorem ensureConstructor_yields {text : String}
    (htext : cx.signatureText parameters = .ok text) :
    (cx.ensureConstructor d parameters anchor?).Yields (.ok ())
      (constructorReports cx d decl parameters text anchor?) := by
  unfold ensureConstructor constructorReports
  refine Check.Yields.ask_bind (Program.membersOf_eq h) ?_
  refine Check.Yields.ask_bind (firstConstructor_members hp h) ?_
  cases hfind : decl.members.find? (cx.isConstructorFor parameters) with
  | some found =>
      obtain ⟨member, hmember, -⟩ := (hp.members h found).1 (List.mem_of_find?_eq_some hfind)
      simp only [hmember]
      exact ensureModifier_yields hmember .isPublic true
  | none =>
      refine Check.Yields.ask_bind (Program.describe_eq h) ?_
      exact Check.Yields.ask_bind htext (Check.yields_report _ _ _ _)

end Constructors

/-! ## Types -/

section Types

variable (h : cx.program.declarations[d]? = some decl) {t : TypeId} (htype : decl.type? = some t)
include h htype

theorem ensureInstanceOf_yields {super : TypeId} {name : String}
    (hname : cx.program.typeName super = .ok name) :
    (cx.ensureInstanceOf d super).Yields (.ok ())
      (verdict (cx.program.isSubtype t super)
        (Code.notSubtype.render decl.subject (lastSegment name) (.declaration d))) := by
  unfold ensureInstanceOf
  refine Check.Yields.ask_bind (Program.typeOf_eq h htype) (yields_verdict ?_)
  refine Check.Yields.ask_bind (Program.describe_eq h) ?_
  exact Check.Yields.ask_bind (Program.simpleTypeName_eq hname) (Check.yields_report _ _ _ _)

theorem ensureAssignable_yields {source : TypeId} {name : String}
    (hname : cx.program.typeName source = .ok name) :
    (cx.ensureAssignable d source).Yields (.ok ())
      (verdict (cx.program.isAssignable source t)
        (Code.notAssignable.render decl.subject (lastSegment name) (.declaration d))) := by
  unfold ensureAssignable
  refine Check.Yields.ask_bind (Program.typeOf_eq h htype) (yields_verdict ?_)
  refine Check.Yields.ask_bind (Program.describe_eq h) ?_
  exact Check.Yields.ask_bind (Program.simpleTypeName_eq hname) (Check.yields_report _ _ _ _)

theorem ensureSame_yields {type : TypeId} {name : String}
    (hname : cx.program.typeName type = .ok name) :
    (cx.ensureSame d type).Yields (.ok ())
      (verdict (cx.program.isSameType t type)
        (Code.notSame.render decl.subject (lastSegment name) (.declaration d))) := by
  unfold ensureSame
  refine Check.Yields.ask_bind (Program.typeOf_eq h htype) (yields_verdict ?_)
  refine Check.Yields.ask_bind (Program.describe_eq h) ?_
  exact Check.Yields.ask_bind (Program.simpleTypeName_eq hname) (Check.yields_report _ _ _ _)

end Types

/-! ## Tags -/

section Tags

variable (hp : cx.program.WellFormed)
include hp

theorem ensureOwnerCarries_yields (h : cx.program.declarations[d]? = some decl) {owner : DeclId}
    (howner : decl.enclosing? = some owner) (tag : Tag) :
    (cx.ensureOwnerCarries d tag).Yields (.ok ())
      (verdict (cx.wears tag owner)
        (Code.ownerNotTagged.render decl.subject ("@" ++ tag.name) (.declaration d))) := by
  obtain ⟨around, haround, -⟩ := hp.enclosing h howner
  unfold ensureOwnerCarries
  refine Check.Yields.ask_bind (Program.ownerOf_eq h howner) ?_
  exact Check.Yields.ask_bind (carries_eq hp haround tag)
    (yields_verdict (reportOn_yields h .ownerNotTagged ("@" ++ tag.name)))

theorem countCarrying_eq (tag : Tag) {ds : List DeclId}
    (h : ∀ e ∈ ds, ∃ member, cx.program.declarations[e]? = some member) :
    cx.countCarrying tag ds = .ok (ds.countP (cx.wears tag)) := by
  induction ds with
  | nil => rfl
  | cons e rest ih =>
      obtain ⟨member, hmember⟩ := h e List.mem_cons_self
      rw [countCarrying, carries_eq hp hmember, ih fun e' he' => h e' (List.mem_cons_of_mem e he'),
        List.countP_cons]
      rfl

/-- What is reported on a number of elements. -/
def countReports (cx : Context) (d : DeclId) (decl : Declaration) (tag : Tag)
    (count low high : Nat) : Diagnostics :=
  let expected := tag.annotationName cx.framework.profile
  if count < low then [Code.notEnough.render decl.subject expected (.declaration d)]
  else if count > high then [Code.tooMany.render decl.subject expected (.declaration d)]
  else []

theorem ensureElementCount_yields (h : cx.program.declarations[d]? = some decl) {owner : DeclId}
    (howner : decl.enclosing? = some owner) {around : Declaration}
    (haround : cx.program.declarations[owner]? = some around) (tag : Tag) (low high : Nat) :
    (cx.ensureElementCount d tag low high).Yields (.ok ())
      (countReports cx d decl tag (around.members.countP (cx.wears tag)) low high) := by
  have hcount : cx.countCarrying tag around.members =
      .ok (around.members.countP (cx.wears tag)) :=
    countCarrying_eq hp tag fun e he => ((hp.members haround e).1 he).imp fun _ hmember => hmember.1
  unfold ensureElementCount countReports
  refine Check.Yields.ask_bind (Program.ownerOf_eq h howner) ?_
  refine Check.Yields.ask_bind (Program.membersOf_eq haround) (Check.Yields.ask_bind hcount ?_)
  dsimp only
  split
  · exact reportOn_yields h _ _
  · split
    · exact reportOn_yields h _ _
    · exact Check.yields_pure ()

end Tags

/-! ## Values -/

/-- A class that is named but not known is advised against. -/
theorem ensureClassExists_yields {a : AttachmentId} {attached : Attachment}
    (hattached : cx.program.attachments[a]? = some attached) (name : String) :
    (cx.ensureClassExists d a name).Yields
      (.ok (cx.program.typeId? ((attached.str? name).getD "")))
      (verdict (cx.program.typeId? ((attached.str? name).getD "")).isSome
        (Code.notFound.render ("Class " ++ (attached.str? name).getD "") "" (.value d a name))) := by
  unfold ensureClassExists
  refine Check.Yields.ask_bind (Program.attachment_eq hattached) ?_
  dsimp only
  cases cx.program.typeId? ((attached.str? name).getD "") with
  | some type => exact Check.yields_pure (some type)
  | none => exact (Check.yields_report _ _ _ _).bind (Check.yields_pure none)

end Context

end ModContracts
