import ModContracts.Proofs.Contract.Met
import ModContracts.Proofs.Snapshot.Consistent

/-!
# The constructor that decides

A type declaration is asked for a constructor that takes parameters of some types. The first of its
members that is one decides: it is reported when it is not public, and when there is none, that is
reported. What stands before it is looked at and passed over, and what stands after it is not looked
at.

* `Program.ConstructorFinding` — what is found on the first constructor, or on its absence;
* `Context.constructorFinding_iff` — on a declaration there is exactly one finding;
* `Snapshot.ensureConstructor_of_load` — it is what is reported.
-/

namespace ModContracts

namespace Program

section Findings

variable (p : Program) (d : DeclId) (types : List TypeId)

/-- What is found on the constructors of a declaration for some types. -/
inductive ConstructorFinding (anchor : Anchor) : Diagnostics → Prop
  /-- There is none. This is said of the declaration, with the qualified names of the types. -/
  | missing {subject : String} {names : List String} (hfirst : p.FirstConstructor d types none)
      (hsubject : p.describe d = .ok subject)
      (hnames : List.Forall₂ (fun t name => p.typeName t = .ok name) types names) :
      ConstructorFinding anchor
        [Code.missingConstructor.render subject ("(" ++ ", ".intercalate names ++ ")") anchor]
  /-- The first is not public. This is said of the constructor, and pinned to it. -/
  | hidden {e : DeclId} {subject : String} (hfirst : p.FirstConstructor d types (some e))
      (hpublic : ¬ p.HasModifier e .isPublic) (hsubject : p.describe e = .ok subject) :
      ConstructorFinding anchor [Code.nonPublic.render subject "" (.declaration e)]
  /-- The first is public. -/
  | accessible {e : DeclId} (hfirst : p.FirstConstructor d types (some e))
      (hpublic : p.HasModifier e .isPublic) :
      ConstructorFinding anchor []

end Findings

variable {p : Program} {d : DeclId} {decl : Declaration}

/-- The members of a declaration are the declarations that stand directly inside it. -/
theorem WellFormed.mem_membersOf_iff (hp : p.WellFormed) (h : p.declarations[d]? = some decl)
    (e : DeclId) : e ∈ decl.members ↔ p.StandsIn e d := by
  rw [hp.members h]
  constructor
  · intro hmember
    obtain ⟨member, hmember, henclosing⟩ := hmember
    exact (standsIn_iff hmember).2 henclosing
  · intro hinside
    obtain ⟨member, hmember, henclosing⟩ := map_eq_ok_iff.1 hinside
    exact ⟨member, declaration_eq_ok_iff.1 hmember, henclosing⟩

end Program

namespace Context

variable {cx : Context} {d : DeclId} {decl : Declaration} {types : List TypeId}

/-! ## The one finding -/

theorem signatureText_eq {names : List String}
    (h : List.Forall₂ (fun t name => cx.program.typeName t = .ok name) types names) :
    cx.signatureText types = .ok ("(" ++ ", ".intercalate names ++ ")") := by
  rw [signatureText, mapM_eq_ok_iff.2 h]
  rfl

section Finding

variable (hp : cx.program.WellFormed) (h : cx.program.declarations[d]? = some decl)
include hp h

/-- Where there is a first constructor, it alone is reported on. -/
theorem constructorReports_of_first {e : DeclId}
    (hfirst : cx.program.FirstConstructor d types (some e)) (text : String)
    (anchor? : Option Anchor) :
    ∃ member, cx.program.declarations[e]? = some member ∧
      constructorReports cx d decl types text anchor? =
        Diagnostics.verdict (member.modifiers.has .isPublic)
          (Code.nonPublic.render member.subject "" (.declaration e)) := by
  have hfind := (firstConstructor_iff h).1 hfirst
  obtain ⟨member, hmember, -⟩ := (hp.members h e).1 (List.mem_of_find?_eq_some hfind)
  refine ⟨member, hmember, ?_⟩
  simp [constructorReports, hfind, hmember, modifierReports, modifierCode?]

variable {text : String} (htext : cx.signatureText types = .ok text) (anchor? : Option Anchor)
include htext

/-- What is reported is found. -/
theorem constructorFinding_constructorReports
    (hnames : ∀ t ∈ types, ∃ name, cx.program.typeName t = .ok name) :
    cx.program.ConstructorFinding d types (anchor?.getD (.declaration d))
      (constructorReports cx d decl types text anchor?) := by
  cases hfind : decl.members.find? (cx.isConstructorFor types) with
  | none =>
      obtain ⟨names, hnames⟩ := exists_forall₂_iff.2 hnames
      obtain rfl : "(" ++ ", ".intercalate names ++ ")" = text :=
        Except.ok.inj ((signatureText_eq hnames).symm.trans htext)
      simp only [constructorReports, hfind]
      exact .missing ((firstConstructor_iff h).2 hfind) (Program.describe_eq h) hnames
  | some e =>
      have hfirst := (firstConstructor_iff h).2 hfind
      obtain ⟨member, hmember, hreports⟩ := constructorReports_of_first hp h hfirst text anchor?
      have hiff : cx.program.HasModifier e .isPublic ↔ member.modifiers.has .isPublic = true :=
        Program.hasModifier_iff hmember
      rw [hreports]
      cases hpublic : member.modifiers.has .isPublic with
      | true => exact .accessible hfirst (hiff.2 hpublic)
      | false =>
          refine .hidden hfirst ?_ (Program.describe_eq hmember)
          simp [hiff, hpublic]

/-- Nothing else is found. -/
theorem eq_constructorReports {es : Diagnostics}
    (hfinding : cx.program.ConstructorFinding d types (anchor?.getD (.declaration d)) es) :
    es = constructorReports cx d decl types text anchor? := by
  cases hfinding with
  | missing hfirst hsubject hnames =>
      obtain rfl := Except.ok.inj ((Program.describe_eq h).symm.trans hsubject)
      obtain rfl := Except.ok.inj (htext.symm.trans (signatureText_eq hnames))
      simp only [constructorReports, (firstConstructor_iff h).1 hfirst]
  | hidden hfirst hpublic hsubject =>
      obtain ⟨member, hmember, hreports⟩ := constructorReports_of_first hp h hfirst text anchor?
      obtain rfl := Except.ok.inj ((Program.describe_eq hmember).symm.trans hsubject)
      rw [Program.hasModifier_iff hmember] at hpublic
      simp [hreports, hpublic]
  | accessible hfirst hpublic =>
      obtain ⟨member, hmember, hreports⟩ := constructorReports_of_first hp h hfirst text anchor?
      rw [Program.hasModifier_iff hmember] at hpublic
      simp [hreports, hpublic]

/-- On the constructors of a declaration there is exactly one finding. -/
theorem constructorFinding_iff (hnames : ∀ t ∈ types, ∃ name, cx.program.typeName t = .ok name)
    {es : Diagnostics} :
    cx.program.ConstructorFinding d types (anchor?.getD (.declaration d)) es ↔
      es = constructorReports cx d decl types text anchor? := by
  constructor
  · intro hfinding
    exact eq_constructorReports hp h htext anchor? hfinding
  · rintro rfl
    exact constructorFinding_constructorReports hp h htext anchor? hnames

end Finding

end Context

/-! ## Loaded programs -/

namespace Snapshot

/-- In a loaded program, asking a declaration for a constructor that takes parameters of known types
never faults, and reports what is found on the first of its members that is one. The members are the
declarations directly inside it, by increasing id: neither what stands inside one of them, nor what is
no such constructor, nor what stands after the first has a part in it. -/
theorem ensureConstructor_of_load {s : Snapshot} {cx : Context} (h : s.load = .ok cx.program)
    {d : DeclId} {kind : Kind} (hkind : cx.program.kindOf d = .ok kind) {types : List TypeId}
    (htypes : ∀ t ∈ types, ∃ name, cx.program.typeName t = .ok name) (anchor? : Option Anchor) :
    (∃ members, cx.program.membersOf d = .ok members ∧ members.Pairwise (· < ·) ∧
      ∀ e, e ∈ members ↔ cx.program.StandsIn e d) ∧
    ∃ ds, (cx.ensureConstructor d types anchor?).Yields (.ok ()) ds ∧
      ∀ es, cx.program.ConstructorFinding d types (anchor?.getD (.declaration d)) es ↔ es = ds := by
  have hp := wellFormed_of_load h
  obtain ⟨decl, hdecl, -⟩ := Program.kindOf_eq_ok_iff.1 hkind
  obtain ⟨text, htext⟩ := Context.exists_signatureText htypes
  refine ⟨⟨decl.members, Program.membersOf_eq hdecl, hp.sorted hdecl, ?_⟩, ?_⟩
  · exact hp.mem_membersOf_iff hdecl
  · refine ⟨_, Context.ensureConstructor_yields hp hdecl htext, fun es => ?_⟩
    exact Context.constructorFinding_iff hp hdecl htext anchor? htypes

/-- A class with a method and a class inside it that would do, a constructor for another type, a
private one for a subtype, and a public one. -/
def overloadExample : Snapshot where
  types := [Profile.default.fmlEvent, Profile.default.event, Profile.default.modMetadata,
      Profile.default.side, "a.Base"].map (fun name => { name := name }) ++
    [{ name := "a.Narrow", supertypes := ["a.Base"] }]
  declarations := [{
    kind := .classType, name := "b.Made", modifiers := [.isPublic]
    members := [
      { kind := .method, name := "of", modifiers := [.isPublic], parameters := ["a.Base"],
        returns? := some "void" },
      { kind := .classType, name := "b.Made.Part",
        members := [
          { kind := .constructor, name := "<init>", modifiers := [.isPublic],
            parameters := ["a.Base"] }] },
      { kind := .constructor, name := "<init>", modifiers := [.isPublic],
        parameters := ["java.lang.String"] },
      { kind := .constructor, name := "<init>", modifiers := [.isPrivate],
        parameters := ["a.Narrow"] },
      { kind := .constructor, name := "<init>", modifiers := [.isPublic],
        parameters := ["a.Base"] }] }]

/-- The private constructor decides, although a public one follows that would do. -/
theorem exists_ensureConstructor_overloadExample :
    ∃ (cx : Context) (base : TypeId) (ds : Diagnostics),
      overloadExample.load = .ok cx.program ∧
      cx.program.typeId? "a.Base" = some base ∧
      (cx.ensureConstructor 0 [base] none).Yields (.ok ()) ds ∧
      ds = [Code.nonPublic.render "Constructor <init>" "" (.declaration 5)] ∧
      ∀ es, cx.program.ConstructorFinding 0 [base] (.declaration 0) es ↔ es = ds := by
  have hrun : (overloadExample.load.toOption.any fun p =>
      (Context.ofProgram p .default).toOption.any fun cx =>
        (cx.program.typeId? "a.Base").any fun base =>
          (cx.program.kindOf 0).toOption.isSome &&
            (cx.program.typeName base).toOption.isSome &&
            (cx.ensureConstructor 0 [base] none).reported =
              [Code.nonPublic.render "Constructor <init>" "" (.declaration 5)]) = true := by
    decide +kernel
  obtain ⟨p, hload, hfacts⟩ := (Option.any_eq_true _ _).1 hrun
  obtain ⟨cx, hcx, hfacts⟩ := (Option.any_eq_true _ _).1 hfacts
  obtain ⟨base, hbase, hfacts⟩ := (Option.any_eq_true _ _).1 hfacts
  simp only [Bool.and_eq_true, decide_eq_true_eq, Option.isSome_iff_exists,
    toOption_eq_some_iff] at hload hcx hfacts
  obtain ⟨⟨⟨kind, hkind⟩, hname⟩, hreported⟩ := hfacts
  obtain ⟨rfl, -, -⟩ := Context.ofProgram_eq_ok_iff.1 hcx
  obtain ⟨-, ds, hyields, hfinding⟩ :=
    ensureConstructor_of_load hload hkind (List.forall_mem_singleton.2 hname) none
  exact ⟨cx, base, ds, hload, hbase, hyields, hyields.reported_eq.symm.trans hreported, hfinding⟩

end Snapshot

end ModContracts
