import ModContracts.Proofs.Contract.Constructors

/-!
# What is found on the sides of a proxy

A proxy field names a class for each of two sides. The sides are passed over three times: for classes
that are not known, for classes that do not fit the field, and for constructors. The reports are those
of the first pass, then those of the second, then those of the third, and what a side adds to each pass
depends on that side alone.

* `Program.FitFinding`, `Program.MadeFinding` — what is found on a class that is known;
* `Program.SideReports`, `Program.SideFinding` — what a side adds to the three passes;
* `Context.sideFinding_iff` — on a side there is exactly one finding;
* `Context.proxyReports_eq` — the reports on a proxy, side by side in each pass;
* `Snapshot.ensureProxyClasses_of_load` — they are what is reported in a loaded program.
-/

namespace ModContracts

namespace Program

/-- What is reported on a side of a proxy, in each of the passes over its sides. -/
structure SideReports where
  /-- The class is not known. -/
  unknown : Diagnostics := []
  /-- The class does not fit the field. -/
  unfit : Diagnostics := []
  /-- The constructors of the class. -/
  constructors : Diagnostics := []

section Findings

variable (p : Program) (d : DeclId)

/-- What is found when a type is held against a field. -/
inductive FitFinding (type : TypeId) : Diagnostics → Prop
  | fits (hfits : p.CanHold d type) : FitFinding type []
  | unfit {subject name : String} (hunfit : ¬ p.CanHold d type) (hsubject : p.describe d = .ok subject)
      (hname : p.simpleTypeName type = .ok name) :
      FitFinding type [Code.notAssignable.render subject name (.declaration d)]

/-- What is found on the constructors without parameters of a type: a type that the program does not
declare is not asked for one. -/
inductive MadeFinding (type : TypeId) (anchor : Anchor) : Diagnostics → Prop
  | undeclared (hundeclared : ∀ e, ¬ p.Declares e type) : MadeFinding type anchor []
  | declared {e : DeclId} {ds : Diagnostics} (hdeclares : p.Declares e type)
      (hfinding : p.ConstructorFinding e [] anchor ds) : MadeFinding type anchor ds

/-- What is found on a side of a proxy, from the value of that side in the attachment. -/
inductive SideFinding (a : AttachmentId) (attached : Attachment) (side : String) :
    SideReports → Prop
  /-- The value is missing, no string, or empty. -/
  | unnamed (hunnamed : ∀ name, ¬ attached.Names side name) : SideFinding a attached side {}
  | unknown {name : String} (hnames : attached.Names side name) (hunknown : p.typeId? name = none) :
      SideFinding a attached side
        { unknown := [⟨.warning, .notFound, "Class " ++ name ++ " not found", .value d a side⟩] }
  | known {name : String} {type : TypeId} {unfit constructors : Diagnostics}
      (hnames : attached.Names side name) (hknown : p.typeId? name = some type)
      (hfit : p.FitFinding d type unfit) (hmade : p.MadeFinding type (.value d a side) constructors) :
      SideFinding a attached side { unfit, constructors }

end Findings

end Program

namespace Context

variable {cx : Context} {d : DeclId} {decl : Declaration} {a : AttachmentId}
  {attached : Attachment} {t type : TypeId} {side : String}

/-! ## Classes that are known -/

section Known

variable (hp : cx.program.WellFormed) (h : cx.program.declarations[d]? = some decl)
  (htype : decl.type? = some t)
include hp

include h htype in
theorem fitFinding_iff {name : String} (hknown : cx.program.typeId? name = some type)
    {ds : Diagnostics} :
    cx.program.FitFinding d type ds ↔ ds = fitReports cx d decl t type := by
  have hname := hp.indexed.typeName_of_typeId? hknown
  have hreports : fitReports cx d decl t type =
      Diagnostics.verdict (cx.program.isAssignable type t)
        (Code.notAssignable.render decl.subject (lastSegment name) (.declaration d)) := by
    simp only [fitReports, hname]
  rw [hreports]
  constructor
  · intro hfinding
    cases hfinding with
    | fits hfits =>
        rw [Program.canHold_iff h htype] at hfits
        rw [hfits, Diagnostics.verdict_true]
    | unfit hunfit hsubject hsimple =>
        obtain rfl := Except.ok.inj ((Program.describe_eq h).symm.trans hsubject)
        obtain rfl := Except.ok.inj ((Program.simpleTypeName_eq hname).symm.trans hsimple)
        rw [Program.canHold_iff h htype, Bool.not_eq_true] at hunfit
        rw [hunfit, Diagnostics.verdict_false]
  · rintro rfl
    have hiff : cx.program.CanHold d type ↔ cx.program.isAssignable type t = true :=
      Program.canHold_iff h htype
    cases hfits : cx.program.isAssignable type t with
    | true => exact .fits (hiff.2 hfits)
    | false =>
        refine .unfit ?_ (Program.describe_eq h) (Program.simpleTypeName_eq hname)
        simp [hiff, hfits]

theorem madeFinding_iff {ds : Diagnostics} :
    cx.program.MadeFinding type (.value d a side) ds ↔
      ds = proxyConstructorReports cx d a side type := by
  unfold proxyConstructorReports
  constructor
  · intro hfinding
    cases hfinding with
    | undeclared hundeclared =>
        cases hproxy : cx.program.introducing? type with
        | none => rfl
        | some proxy => exact absurd ((declares_iff hp).2 hproxy) (hundeclared proxy)
    | declared hdeclares hfinding =>
        have hproxy := (declares_iff hp).1 hdeclares
        obtain ⟨proxyDecl, hproxyDecl, -⟩ := (hp.introducing type _).1 hproxy
        simp only [hproxy, hproxyDecl]
        exact eq_constructorReports hp hproxyDecl (signatureText_nil cx) _ hfinding
  · rintro rfl
    cases hproxy : cx.program.introducing? type with
    | none =>
        refine .undeclared fun e hdeclares => ?_
        rw [declares_iff hp, hproxy] at hdeclares
        cases hdeclares
    | some proxy =>
        obtain ⟨proxyDecl, hproxyDecl, -⟩ := (hp.introducing type proxy).1 hproxy
        simp only [hproxyDecl]
        refine .declared ((declares_iff hp).2 hproxy) ?_
        exact constructorFinding_constructorReports hp hproxyDecl (signatureText_nil cx)
          (some (.value d a side)) (by simp)

end Known

/-! ## Sides -/

/-- The class that a side names, if it names one that is known. -/
def knownClass? (cx : Context) (attached : Attachment) (side : String) : Option TypeId :=
  if className attached side = "" then none else cx.program.typeId? (className attached side)

/-- What a side adds to the reports on a proxy. -/
def sideReports (cx : Context) (d : DeclId) (decl : Declaration) (a : AttachmentId)
    (attached : Attachment) (t : TypeId) (side : String) : Program.SideReports where
  unknown :=
    if className attached side = "" then []
    else
      Diagnostics.verdict (cx.program.typeId? (className attached side)).isSome
        (Code.notFound.render ("Class " ++ className attached side) "" (.value d a side))
  unfit := (knownClass? cx attached side).elim [] (fitReports cx d decl t)
  constructors := (knownClass? cx attached side).elim [] (proxyConstructorReports cx d a side)

/-- On a side of a proxy there is exactly one finding. -/
theorem sideFinding_iff (hp : cx.program.WellFormed) (h : cx.program.declarations[d]? = some decl)
    (htype : decl.type? = some t) {reports : Program.SideReports} :
    cx.program.SideFinding d a attached side reports ↔
      reports = sideReports cx d decl a attached t side := by
  have hnames (name : String) :
      attached.Names side name ↔ className attached side = name ∧ name ≠ "" :=
    Attachment.names_iff
  unfold sideReports knownClass?
  constructor
  · intro hfinding
    cases hfinding with
    | unnamed hunnamed =>
        have hempty : className attached side = "" := by
          by_contra hne
          exact hunnamed _ ((hnames _).2 ⟨rfl, hne⟩)
        simp [hempty]
    | unknown hname hunknown =>
        obtain ⟨rfl, hne⟩ := (hnames _).1 hname
        simp [hne, hunknown, Diagnostics.verdict, Code.render, Code.severity, Code.template]
    | known hname hknown hfit hmade =>
        obtain ⟨rfl, hne⟩ := (hnames _).1 hname
        rw [fitFinding_iff hp h htype hknown] at hfit
        rw [madeFinding_iff hp] at hmade
        simp [hne, hknown, hfit, hmade, Diagnostics.verdict]
  · rintro rfl
    by_cases hempty : className attached side = ""
    · simp only [hempty, if_true, Option.elim_none]
      refine .unnamed fun name hname => ?_
      obtain ⟨rfl, hne⟩ := (hnames name).1 hname
      exact hne hempty
    · have hname := (hnames _).2 ⟨rfl, hempty⟩
      cases hclass : cx.program.typeId? (className attached side) with
      | none =>
          simp only [hempty, Code.render, Code.severity, Code.template, String.append_empty]
          exact .unknown hname hclass
      | some type =>
          simp only [hempty, if_false, Option.elim_some]
          exact .known hname hclass ((fitFinding_iff hp h htype hclass).2 rfl)
            ((madeFinding_iff hp).2 rfl)

/-! ## Passes over the sides -/

theorem unknownReports_filter (cx : Context) (d : DeclId) (decl : Declaration) (a : AttachmentId)
    (attached : Attachment) (t : TypeId) (sides : List String) :
    unknownReports cx d a attached (sides.filter fun side => className attached side ≠ "") =
      sides.flatMap fun side => (sideReports cx d decl a attached t side).unknown := by
  unfold unknownReports
  induction sides with
  | nil => rfl
  | cons side rest ih =>
      rw [List.flatMap_cons, ← ih]
      by_cases hempty : className attached side = "" <;> simp [sideReports, hempty]

/-- A pass over the classes that are known is one over all sides, in which the others add nothing. -/
theorem flatMap_resolvedSides (cx : Context) (attached : Attachment)
    (reports : String → TypeId → Diagnostics) (sides : List String) :
    (resolvedSides cx attached (sides.filter fun side => className attached side ≠ "")).flatMap
        (fun known => reports known.1 known.2) =
      sides.flatMap fun side => (knownClass? cx attached side).elim [] (reports side) := by
  unfold resolvedSides
  induction sides with
  | nil => rfl
  | cons side rest ih =>
      rw [List.flatMap_cons, ← ih]
      by_cases hempty : className attached side = ""
      · simp [knownClass?, hempty]
      · cases hclass : cx.program.typeId? (className attached side) <;>
          simp [knownClass?, hempty, hclass]

/-- The reports on a proxy are those of its sides, pass by pass. -/
theorem proxyReports_eq (cx : Context) (d : DeclId) (decl : Declaration) (a : AttachmentId)
    (attached : Attachment) (t : TypeId) :
    proxyReports cx d decl a attached t =
      (proxySides.flatMap fun side => (sideReports cx d decl a attached t side).unknown) ++
        ((proxySides.flatMap fun side => (sideReports cx d decl a attached t side).unfit) ++
          proxySides.flatMap fun side =>
            (sideReports cx d decl a attached t side).constructors) := by
  have hunknown := unknownReports_filter cx d decl a attached t proxySides
  have hunfit := flatMap_resolvedSides cx attached (fun _ => fitReports cx d decl t) proxySides
  have hmade := flatMap_resolvedSides cx attached (proxyConstructorReports cx d a) proxySides
  unfold proxyReports
  exact congrArg₂ (· ++ ·) hunknown (congrArg₂ (· ++ ·) hunfit hmade)

end Context

/-! ## Loaded programs -/

namespace Snapshot

/-- In a loaded program, checking the classes of a field that carries a proxy's tag never faults. With
the first attachment of the tag there is one finding on each side, from the value of that side alone,
and the reports are the classes that are not known, those that do not fit, and what is found on
constructors, each with the client's before the server's. -/
theorem ensureProxyClasses_of_load {s : Snapshot} {p : Program} {profile : Profile} {cx : Context}
    {d : DeclId} (h : s.load = .ok p) (hcx : Context.ofProgram p profile = .ok cx)
    (hkind : p.kindOf d = .ok .field) (hcarries : p.Carries profile d .sidedProxy) :
    ∃ a attached, p.FirstTagged profile d .sidedProxy a ∧ p.attachment a = .ok attached ∧
      ∃ client server,
        (∀ reports, p.SideFinding d a attached "clientSide" reports ↔ reports = client) ∧
        (∀ reports, p.SideFinding d a attached "serverSide" reports ↔ reports = server) ∧
        (cx.ensureProxyClasses d).Yields (.ok ())
          ((client.unknown ++ server.unknown) ++ (client.unfit ++ server.unfit) ++
            (client.constructors ++ server.constructors)) := by
  have hp := wellFormed_of_load h
  obtain ⟨rfl, rfl, hresolved⟩ := Context.ofProgram_eq_ok_iff.1 hcx
  obtain ⟨decl, hdecl, hfield⟩ := Program.kindOf_eq_ok_iff.1 hkind
  obtain ⟨t, -, htype, -⟩ := hp.typed hdecl (by rw [hfield]; rfl)
  obtain ⟨a, attached, hfirst, hattached⟩ :=
    Context.exists_firstAttachment hp hdecl ((Context.wears_iff hresolved).2 hcarries)
  obtain ⟨type, htag, hfind⟩ := Option.bind_eq_some_iff.1 hfirst
  rw [hresolved.tagType] at htag
  refine ⟨a, attached, (Program.firstTagged_iff hdecl htag).2 hfind,
    Program.attachment_eq hattached, _, _, fun _ => Context.sideFinding_iff hp hdecl htype,
    fun _ => Context.sideFinding_iff hp hdecl htype, ?_⟩
  have hyields := Context.ensureProxyClasses_yields hp hdecl htype hfirst hattached
  rw [Context.proxyReports_eq] at hyields
  simpa [Context.proxySides] using hyields

/-- A proxy that names a class with a private constructor that does not fit, and one that is not
there. -/
def oddProxyExample : Snapshot where
  types := [Profile.default.fmlEvent, Profile.default.event, Profile.default.modMetadata,
    Profile.default.side, Tag.sidedProxy.annotationName .default].map fun name => { name := name }
  declarations := [
    { kind := .classType, name := "b.Client", modifiers := [.isPublic],
      members := [{ kind := .constructor, name := "<init>", modifiers := [.isPrivate] }] },
    { kind := .classType, name := "b.Game", modifiers := [.isPublic],
      members := [
        { kind := .field, name := "proxy", type? := some "b.Game",
          attachments := [
            { type := Tag.sidedProxy.annotationName .default,
              values := [("clientSide", .str "b.Client"), ("serverSide", .str "b.Server")] }] }] }]

/-- The server's class is missed before the client's is told not to fit. -/
theorem exists_ensureProxyClasses_oddProxyExample :
    ∃ p cx, oddProxyExample.load = .ok p ∧ Context.ofProgram p .default = .ok cx ∧
      ∃ a attached, p.FirstTagged .default 3 .sidedProxy a ∧ p.attachment a = .ok attached ∧
        ∃ client server,
          (∀ reports, p.SideFinding 3 a attached "clientSide" reports ↔ reports = client) ∧
          (∀ reports, p.SideFinding 3 a attached "serverSide" reports ↔ reports = server) ∧
          (client.unknown ++ server.unknown) ++ (client.unfit ++ server.unfit) ++
              (client.constructors ++ server.constructors) =
            [Code.notFound.render "Class b.Server" "" (.value 3 0 "serverSide"),
              Code.notAssignable.render "Field proxy" "Client" (.declaration 3),
              Code.nonPublic.render "Constructor <init>" "" (.declaration 1)] := by
  have hrun : (oddProxyExample.load.toOption.any fun p =>
      (Context.ofProgram p .default).toOption.any fun cx =>
        (p.kindOf 3).toOption = some .field && cx.wears .sidedProxy 3 &&
          (cx.ensureProxyClasses 3).reported =
            [Code.notFound.render "Class b.Server" "" (.value 3 0 "serverSide"),
              Code.notAssignable.render "Field proxy" "Client" (.declaration 3),
              Code.nonPublic.render "Constructor <init>" "" (.declaration 1)]) = true := by
    decide +kernel
  obtain ⟨p, hload, hfacts⟩ := (Option.any_eq_true _ _).1 hrun
  obtain ⟨cx, hcx, hfacts⟩ := (Option.any_eq_true _ _).1 hfacts
  simp only [Bool.and_eq_true, decide_eq_true_eq, toOption_eq_some_iff] at hload hcx hfacts
  obtain ⟨⟨hkind, hwears⟩, hreported⟩ := hfacts
  have hcarries : p.Carries .default 3 .sidedProxy := by
    obtain ⟨rfl, hprofile, hresolved⟩ := Context.ofProgram_eq_ok_iff.1 hcx
    rw [← hprofile]
    exact (Context.wears_iff hresolved).1 hwears
  obtain ⟨a, attached, hfirst, hattached, client, server, hclient, hserver, hyields⟩ :=
    ensureProxyClasses_of_load hload hcx hkind hcarries
  exact ⟨p, cx, hload, hcx, a, attached, hfirst, hattached, client, server, hclient, hserver,
    hyields.reported_eq.symm.trans hreported⟩

end Snapshot

end ModContracts
