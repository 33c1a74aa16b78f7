import ModContracts.Contract
import ModContracts.Proofs.Requirement

/-!
# What the values of a tag report

Two requirements look into the attachment that puts a declaration under its tag. An instance field
is held against the type around it, and the classes that a proxy field names are looked up, held
against the field, and asked for a constructor.

* `Context.ensureInstanceType_yields` — what an instance field reports;
* `Context.resolvedSides` — the sides of a proxy whose class is known;
* `Context.ensureProxyClasses_yields` — what a proxy field reports: unknown classes, then classes
  that do not fit, then constructors.
-/

namespace ModContracts

open Diagnostics

namespace Context

variable {cx : Context} {d : DeclId} {decl : Declaration} {a : AttachmentId}
  {attached : Attachment} {t : TypeId}

/-! ## Instances -/

/-- What an instance field reports: nothing when it names another mod, else whether it can hold the
type around it, and whether it is of that type. -/
def instanceReports (cx : Context) (d : DeclId) (decl : Declaration) (attached : Attachment)
    (t owner : TypeId) (name : String) : Diagnostics :=
  if (attached.str? "value").getD "" ≠ "" then []
  else
    verdict (cx.program.isAssignable owner t)
        (Code.notAssignable.render decl.subject (lastSegment name) (.declaration d)) ++
      verdict (cx.program.isSameType t owner)
        (Code.notSame.render decl.subject (lastSegment name) (.declaration d))

theorem ensureInstanceType_yields (hp : cx.program.WellFormed)
    (h : cx.program.declarations[d]? = some decl) (htype : decl.type? = some t)
    (hfirst : cx.firstAttachment? .modInstance decl = some a)
    (hattached : cx.program.attachments[a]? = some attached) {owner : DeclId}
    (howner : decl.enclosing? = some owner) {ownerType : TypeId} {name : String}
    (hownerType : cx.program.typeOf owner = .ok ownerType)
    (hname : cx.program.typeName ownerType = .ok name) :
    (cx.ensureInstanceType d).Yields (.ok ())
      (instanceReports cx d decl attached t ownerType name) := by
  unfold ensureInstanceType instanceReports
  refine (tagAttachment_yields hp h hfirst).bind_silent ?_
  refine Check.Yields.ask_bind (Program.attachment_eq hattached) ?_
  by_cases hvalue : (attached.str? "value").getD "" ≠ ""
  · rw [if_pos hvalue, if_pos hvalue]
    exact Check.yields_pure ()
  · rw [if_neg hvalue, if_neg hvalue]
    refine Check.Yields.ask_bind (Program.ownerOf_eq h howner) ?_
    refine Check.Yields.ask_bind hownerType ?_
    exact (ensureAssignable_yields h htype hname).bind (ensureSame_yields h htype hname)

/-! ## Proxies -/

/-- The name under a side, empty when there is none. -/
def className (attached : Attachment) (side : String) : String :=
  (attached.str? side).getD ""

/-- The sides among some whose class is known, with that class. -/
def resolvedSides (cx : Context) (attached : Attachment) (sides : List String) :
    List (String × TypeId) :=
  sides.filterMap fun side =>
    (cx.program.typeId? (className attached side)).map fun type => (side, type)

/-- What is reported on the sides among some whose class is not known. -/
def unknownReports (cx : Context) (d : DeclId) (a : AttachmentId) (attached : Attachment)
    (sides : List String) : Diagnostics :=
  sides.flatMap fun side =>
    verdict (cx.program.typeId? (className attached side)).isSome
      (Code.notFound.render ("Class " ++ className attached side) "" (.value d a side))

theorem resolveSides_yields (hattached : cx.program.attachments[a]? = some attached)
    (sides : List String) :
    (cx.resolveSides d a sides).Yields (.ok (resolvedSides cx attached sides))
      (unknownReports cx d a attached sides) := by
  induction sides with
  | nil => exact Check.yields_pure []
  | cons side rest ih =>
      unfold resolveSides
      rw [unknownReports, List.flatMap_cons]
      refine (ensureClassExists_yields hattached side).bind ?_
      -- what is put together after the recursive call reports nothing
      rw [← List.append_nil (List.flatMap _ rest)]
      refine ih.bind ?_
      unfold resolvedSides
      cases h : cx.program.typeId? (className attached side) with
      | none =>
          rw [List.filterMap_cons_none (by rw [h]; rfl)]
          unfold className at h
          rw [h]
          exact Check.yields_pure _
      | some type =>
          rw [List.filterMap_cons_some (by rw [h]; rfl)]
          unfold className at h
          rw [h]
          exact Check.yields_pure _

/-- What is reported on the class of a side that is known: it may not fit the field. -/
def fitReports (cx : Context) (d : DeclId) (decl : Declaration) (t : TypeId)
    (type : TypeId) : Diagnostics :=
  match cx.program.typeName type with
  | .ok name =>
    verdict (cx.program.isAssignable type t)
      (Code.notAssignable.render decl.subject (lastSegment name) (.declaration d))
  | .error _ => []

/-- What is reported on the constructors of a class that is known, if the program declares it. -/
def proxyConstructorReports (cx : Context) (d : DeclId) (a : AttachmentId) (side : String)
    (type : TypeId) : Diagnostics :=
  match cx.program.introducing? type with
  | some proxy =>
    match cx.program.declarations[proxy]? with
    | some proxyDecl => constructorReports cx proxy proxyDecl [] "()" (some (.value d a side))
    | none => []
  | none => []

/-- What a proxy field reports. -/
def proxyReports (cx : Context) (d : DeclId) (decl : Declaration) (a : AttachmentId)
    (attached : Attachment) (t : TypeId) : Diagnostics :=
  let sides := namedSides attached
  let resolved := resolvedSides cx attached sides
  unknownReports cx d a attached sides ++
    (resolved.flatMap (fun known => fitReports cx d decl t known.2) ++
      resolved.flatMap fun known => proxyConstructorReports cx d a known.1 known.2)

theorem ensureProxyClasses_yields (hp : cx.program.WellFormed)
    (h : cx.program.declarations[d]? = some decl) (htype : decl.type? = some t)
    (hfirst : cx.firstAttachment? .sidedProxy decl = some a)
    (hattached : cx.program.attachments[a]? = some attached) :
    (cx.ensureProxyClasses d).Yields (.ok ()) (proxyReports cx d decl a attached t) := by
  unfold ensureProxyClasses proxyReports
  refine (tagAttachment_yields hp h hfirst).bind_silent ?_
  refine Check.Yields.ask_bind (Program.attachment_eq hattached) ?_
  refine (resolveSides_yields hattached (namedSides attached)).bind ?_
  -- every class is held against the field before any is asked for a constructor
  refine Check.Yields.bind (Check.Yields.forM fun known hknown => ?_)
    (Check.Yields.forM fun known _ => ?_)
  · obtain ⟨side, -, hside⟩ := List.mem_filterMap.1 hknown
    obtain ⟨type, htypeId, rfl⟩ := Option.map_eq_some_iff.1 hside
    have hname := hp.indexed.typeName_of_typeId? htypeId
    simp only [fitReports, hname]
    exact ensureAssignable_yields h htype hname
  · obtain ⟨side, type⟩ := known
    unfold proxyConstructorReports
    dsimp only
    cases hproxy : cx.program.introducing? type with
    | none => exact Check.yields_pure ()
    | some proxy =>
        obtain ⟨proxyDecl, hproxyDecl, -⟩ := (hp.introducing type proxy).1 hproxy
        simp only [hproxyDecl]
        exact ensureConstructor_yields hp hproxyDecl (signatureText_nil cx)

end Context

end ModContracts
