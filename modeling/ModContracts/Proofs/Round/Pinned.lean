import ModContracts.Proofs.Framework
import ModContracts.Proofs.Program.Carriers
import ModContracts.Proofs.Round.Matched

/-!
# Where diagnostics are pinned

A round matches itself. Read with a relation between places that says something about the first of them
only, this is an invariant of all reports: whatever is reported, whether the round goes through or
faults, is pinned to an element that is there.

* `Program.Pinned` — an anchor leads to an element of a program;
* `Context.matched_self` — a context matches itself, with its anchors pinned;
* `Program.reports_pinned` — the reports of a round over any program that edits lead to.
-/

namespace ModContracts

/-- An anchor leads to an element of a program: a declaration, an attachment on it, a string that the
attachment holds. -/
structure Program.Pinned (p : Program) (anchor : Anchor) : Prop where
  declaration : ∃ decl, p.declaration anchor.declId = .ok decl
  attachment : ∀ a, anchor.attachmentId? = some a →
    ∃ ids attached, p.attachmentsOf anchor.declId = .ok ids ∧ a ∈ ids ∧
      p.attachment a = .ok attached ∧ attached.owner = anchor.declId
  value : ∀ a name, anchor.attachmentId? = some a → anchor.valueName? = some name →
    ∃ attached text, p.attachment a = .ok attached ∧ attached.str? name = some text ∧ text ≠ ""

namespace Program

/-- A program matches itself. -/
theorem matched_self (p : Program) : p.Matched id Eq Eq p :=
  .of_types_eq rfl rfl (fun _ => rfl) fun _ => .refl fun _ _ => Declaration.matched_of_eq rfl

/-- A declaration that is there is a place for reports. -/
theorem pinned_declaration {p : Program} {d : DeclId} {decl : Declaration}
    (h : p.declaration d = .ok decl) : p.Pinned (.declaration d) :=
  ⟨⟨decl, h⟩, by simp [Anchor.attachmentId?], by simp [Anchor.attachmentId?]⟩

/-- So is a side of a proxy that names a class. -/
theorem pinned_side {p : Program} {d : DeclId} {ids : List AttachmentId} {a : AttachmentId}
    {attached : Attachment} {side : String} (hids : p.attachmentsOf d = .ok ids) (ha : a ∈ ids)
    (hattached : p.attachment a = .ok attached) (howner : attached.owner = d)
    (hside : side ∈ Context.namedSides attached) : p.Pinned (.value d a side) where
  declaration := (map_eq_ok_iff.1 hids).imp fun _ h => h.1
  attachment b hb := by
    obtain rfl : a = b := Option.some.inj hb
    exact ⟨ids, attached, hids, ha, hattached, howner⟩
  value b name hb hname := by
    obtain rfl : a = b := Option.some.inj hb
    obtain rfl : side = name := Option.some.inj hname
    have hnamed : (attached.str? side).getD "" ≠ "" := by
      simpa using (List.mem_filter.1 hside).2
    cases htext : attached.str? side with
    | none => simp [htext] at hnamed
    | some text => exact ⟨attached, text, hattached, htext, by simpa [htext] using hnamed⟩

end Program

namespace Context

variable {cx : Context}

/-- The attachments of a program belong to the declarations that list them. -/
theorem owner_of_mem_attachmentsOf {p : Program} (hp : p.Attached) {d : DeclId}
    {ids : List AttachmentId} {a : AttachmentId} {attached : Attachment}
    (hids : p.attachmentsOf d = .ok ids) (ha : a ∈ ids) (hattached : p.attachment a = .ok attached) :
    attached.owner = d := by
  obtain ⟨decl, hdecl, rfl⟩ := map_eq_ok_iff.1 hids
  rw [hp.listed (Program.declaration_eq_ok_iff.1 hdecl), Program.mem_ownedBy_iff] at ha
  obtain ⟨other, hother, howner⟩ := ha
  obtain rfl : attached = other :=
    Option.some.inj ((Program.attachment_eq_ok_iff.1 hattached).symm.trans hother)
  exact howner

/-- The first attachment of a tag is a place for reports with every side that names a class. -/
theorem findMatched_self (hp : cx.program.Attached) (tag : Tag) (d : DeclId) :
    FindMatched id (fun anchor _ => cx.program.Pinned anchor) cx cx tag d d := by
  refine .of_eq rfl fun ids a attached hids ha hattached => ⟨hattached, fun side hside => ?_⟩
  have howner := owner_of_mem_attachmentsOf hp hids ha hattached
  exact Program.pinned_side hids ha hattached howner hside

/-- A context matches itself, and reports are pinned to elements of its program. -/
theorem matched_self : cx.Matched id Eq Eq (fun anchor _ => cx.program.Pinned anchor) cx where
  program := cx.program.matched_self
  designated _ := rfl
  annotationName _ := rfl
  carries := by
    rintro tag - d _ rfl
    exact .refl fun _ _ => rfl
  anchor _ hdecl := Program.pinned_declaration hdecl

/-- A round matches itself. -/
theorem validate_matched_self (hp : cx.program.Attached) :
    Check.Matched id (fun anchor _ => cx.program.Pinned anchor) Eq cx.validate cx.validate := by
  refine matched_self.validate (List.forall₂_same.2 fun pair _ => ?_) rfl
  exact ⟨rfl, rfl, findMatched_self hp pair.1 pair.2⟩

end Context

namespace Program

/-- Whatever a round over a program that edits lead to reports, even if it faults later, is pinned to a
declaration that is there. If it is pinned to an attachment, that one is listed on the declaration and
belongs to it, and if it is pinned to a value of it, the value is a string that is not empty. Severity
and text are those of the code. -/
theorem reports_pinned {edits : List Edit} {p : Program} {profile : Profile} {cx : Context}
    (h : Program.initial.applyAll edits = some p) (hcx : Context.ofProgram p profile = .ok cx)
    (prior : Diagnostics) :
    ∃ reported, (cx.validate.after prior).2 = prior ++ reported ∧
      ∀ report ∈ reported, p.Pinned report.anchor ∧ report.severity = report.code.severity ∧
        ∃ subject expected, report.message = subject ++ report.code.template ++ expected := by
  obtain ⟨rfl, -, -⟩ := Context.ofProgram_eq_ok_iff.1 hcx
  obtain ⟨_, _, reported, _, hyields, -, -, hreports⟩ :=
    Context.validate_matched_self (built_of_applyAll h).attached
  refine ⟨reported, by rw [hyields prior], fun report hmem => ?_⟩
  obtain ⟨report', -, hmatched⟩ := exists_mem_of_forall₂ hreports.flip hmem
  obtain ⟨code, -, -, hpinned⟩ := hmatched
  exact ⟨hpinned, rfl, _, _, rfl⟩

/-- A proxy in a class that is no mod. It names a class that is not there and one that has no
constructor, and carries a tag that does not belong on a field. -/
def strayProxyExample : List Edit :=
  [Profile.default.fmlEvent, Profile.default.event, Profile.default.modMetadata,
    Profile.default.side, Tag.sidedProxy.annotationName .default,
    Tag.cancelable.annotationName .default].map (.declareType · []) ++
  [.declareClass none "a.Server" [] (.ofList [.isPublic]),
    .declareClass none "a.Example" [] (.ofList [.isPublic]),
    .declareField 1 "proxy" (.ofList [.isPublic, .isStatic]) 17,
    .attach 2 15 [("clientSide", .str "a.Client"), ("serverSide", .str "a.Server")],
    .attach 2 16 []]

/-- The class that is missing and the constructor that is missing are each reported on the side that
names the class, before the other tag faults. -/
theorem exists_pinned_strayProxyExample :
    ∃ p cx, Program.initial.applyAll strayProxyExample = some p ∧
      Context.ofProgram p .default = .ok cx ∧
      ∃ reported, cx.validate.after [] =
          (.error (.unexpectedTarget .cancelable .field "proxy"), reported) ∧
        reported.map (·.anchor) =
          [.declaration 2, .value 2 0 "clientSide", .value 2 0 "serverSide"] ∧
        ∀ report ∈ reported, p.Pinned report.anchor := by
  have hrun : (Program.initial.applyAll strayProxyExample).any (fun p =>
      ((Context.ofProgram p .default).toOption.any fun cx =>
        (cx.validate.after []).1 = .error (.unexpectedTarget .cancelable .field "proxy") &&
          (cx.validate.after []).2.map (·.anchor) =
            [.declaration 2, .value 2 0 "clientSide", .value 2 0 "serverSide"])) = true := by
    decide +kernel
  obtain ⟨p, hp, hfacts⟩ := (Option.any_eq_true _ _).1 hrun
  obtain ⟨cx, hcx, hfacts⟩ := (Option.any_eq_true _ _).1 hfacts
  simp only [Bool.and_eq_true, decide_eq_true_eq] at hfacts
  obtain ⟨houtcome, hanchors⟩ := hfacts
  have hcontext := toOption_eq_some_iff.1 hcx
  obtain ⟨reported, hreported, hpinned⟩ := reports_pinned hp hcontext []
  rw [List.nil_append] at hreported
  refine ⟨p, cx, hp, hcontext, reported, Prod.ext houtcome hreported, ?_, fun report hmem => ?_⟩
  · rw [← hreported, hanchors]
  · exact (hpinned report hmem).1

end Program

end ModContracts
