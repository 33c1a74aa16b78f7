import ModContracts.Proofs.Contract.Proxies
import ModContracts.Proofs.Round.Faults
import ModContracts.Proofs.Snapshot.References

/-!
# The class of a name

A value that names a class is looked up in the one table of all types. What is found there under any other
name than a keyword is a reference type of that name, and a name that is not there is reported. The
keywords are in the table too, so a value that holds one is taken for a class.

* `Program.ClassFinding` — what is found on a name as the name of a class;
* `Context.classFinding_iff` — on a name that is no keyword there is exactly one finding;
* `Snapshot.ensureClassExists_of_load` — it is what is reported in a loaded program;
* `Snapshot.exists_round_keywordProxyExample` — a round with a proxy that names a primitive.
-/

namespace ModContracts

namespace Program

/-- What is found on a name as the name of a class: a reference type of exactly that name, or that there is
none, which is told at the value that holds the name. -/
inductive ClassFinding (p : Program) (d : DeclId) (a : AttachmentId) (side name : String) :
    Option TypeId → Diagnostics → Prop
  | known {t : TypeId} (hreference : p.IsReference t) (hname : p.typeName t = .ok name) :
      ClassFinding p d a side name (some t) []
  | missing (hmissing : ∀ t, p.IsReference t → p.typeName t ≠ .ok name) :
      ClassFinding p d a side name none
        [Code.notFound.render ("Class " ++ name) "" (.value d a side)]

end Program

namespace Context

variable {p : Program} {d : DeclId} {a : AttachmentId} {side name : String}

/-- Under a name that is no keyword stands a reference type, or nothing. -/
theorem classFinding_iff (hp : p.Built) (hname : name ∉ typeKeywords) {found : Option TypeId}
    {es : Diagnostics} :
    p.ClassFinding d a side name found es ↔ found = p.typeId? name ∧
      es = Diagnostics.verdict (p.typeId? name).isSome
        (Code.notFound.render ("Class " ++ name) "" (.value d a side)) := by
  have hid (t : TypeId) : p.typeId? name = some t ↔ p.typeName t = .ok name :=
    hp.indexed.typeId?_eq_some_iff
  have hreference {t : TypeId} (ht : p.typeName t = .ok name) : p.IsReference t :=
    (hp.isReference_iff ht).2 hname
  constructor
  · intro hfinding
    cases hfinding with
    | known _ ht =>
        rw [(hid _).2 ht]
        exact ⟨rfl, rfl⟩
    | missing hmissing =>
        have hnone : p.typeId? name = none := Option.eq_none_iff_forall_ne_some.2 fun t ht =>
          hmissing t (hreference ((hid t).1 ht)) ((hid t).1 ht)
        rw [hnone]
        exact ⟨rfl, rfl⟩
  · rintro ⟨rfl, rfl⟩
    cases hfind : p.typeId? name with
    | some t => exact .known (hreference ((hid t).1 hfind)) ((hid t).1 hfind)
    | none =>
        refine .missing fun t _ ht => ?_
        rw [(hid t).2 ht] at hfind
        cases hfind

end Context

/-! ## Loaded programs -/

namespace Snapshot

/-- In a loaded program, asking for the class that a value of an attachment names never faults. If the
name is no keyword, the answer and what is reported are what is found on it: a reference type of that name,
or a report that there is none. A keyword is answered with the type it stands for, which is no reference
type, and without a report. -/
theorem ensureClassExists_of_load {s : Snapshot} {cx : Context} (h : s.load = .ok cx.program)
    (d : DeclId) {a : AttachmentId} {attached : Attachment}
    (hattached : cx.program.attachment a = .ok attached) {side name : String}
    (hnames : attached.Names side name) :
    ∃ found ds, (cx.ensureClassExists d a side).Yields (.ok found) ds ∧
      (name ∉ typeKeywords → ∀ found' es,
        cx.program.ClassFinding d a side name found' es ↔ found' = found ∧ es = ds) ∧
      (name ∈ typeKeywords → ∃ t, found = some t ∧ cx.program.typeName t = .ok name ∧
        ¬ cx.program.IsReference t ∧ ds = []) := by
  have hbuilt := built_of_load h
  obtain ⟨hvalue, -⟩ := Attachment.names_iff.1 hnames
  have hyields := Context.ensureClassExists_yields (d := d)
    (Program.attachment_eq_ok_iff.1 hattached) side
  rw [hvalue] at hyields
  refine ⟨_, _, hyields, fun hname found' es => Context.classFinding_iff hbuilt hname, ?_⟩
  intro hname
  obtain ⟨t, ht⟩ := hbuilt.exists_typeId?_of_keyword hname
  have htype := hbuilt.indexed.typeName_of_typeId? ht
  rw [ht]
  exact ⟨t, rfl, htype, fun href => (hbuilt.isReference_iff htype).1 href hname, rfl⟩

/-- The server's class of the proxy is not there. -/
theorem exists_ensureClassExists_oddProxyExample :
    ∃ (cx : Context) (found : Option TypeId) (ds : Diagnostics),
      oddProxyExample.load = .ok cx.program ∧
      (cx.ensureClassExists 3 0 "serverSide").Yields (.ok found) ds ∧
      ds = [Code.notFound.render "Class b.Server" "" (.value 3 0 "serverSide")] ∧
      ∀ found' es, cx.program.ClassFinding 3 0 "serverSide" "b.Server" found' es ↔
        found' = found ∧ es = ds := by
  have hrun : (oddProxyExample.load.toOption.any fun p =>
      (Context.ofProgram p .default).toOption.any fun cx =>
        (cx.program.attachment 0).toOption.any fun attached =>
          (attached.str? "serverSide").getD "" = "b.Server" &&
            (cx.ensureClassExists 3 0 "serverSide").reported =
              [Code.notFound.render "Class b.Server" "" (.value 3 0 "serverSide")]) = true := by
    decide +kernel
  obtain ⟨p, hload, hfacts⟩ := (Option.any_eq_true _ _).1 hrun
  obtain ⟨cx, hcx, hfacts⟩ := (Option.any_eq_true _ _).1 hfacts
  obtain ⟨attached, hattached, hfacts⟩ := (Option.any_eq_true _ _).1 hfacts
  simp only [Bool.and_eq_true, decide_eq_true_eq, toOption_eq_some_iff] at hload hcx hattached hfacts
  obtain ⟨hvalue, hreported⟩ := hfacts
  obtain ⟨rfl, -, -⟩ := Context.ofProgram_eq_ok_iff.1 hcx
  have hnames : attached.Names "serverSide" "b.Server" :=
    Attachment.names_iff.2 ⟨hvalue, by decide⟩
  obtain ⟨found, ds, hyields, hfinding, -⟩ := ensureClassExists_of_load hload 3 hattached hnames
  exact ⟨cx, found, ds, hload, hyields, hyields.reported_eq.symm.trans hreported,
    hfinding (by decide)⟩

/-- A mod with a proxy of a primitive type, for which it names the primitive. -/
def keywordProxyExample : Snapshot where
  types := frameworkTypes .default
  declarations := [{
    kind := .classType, name := "a.Example", modifiers := [.isPublic]
    attachments := [{ type := Tag.mod.annotationName .default }]
    members := [
      { kind := .constructor, name := "<init>", modifiers := [.isPublic] },
      { kind := .field, name := "proxy", modifiers := [.isPublic, .isStatic], type? := some "int",
        attachments := [
          { type := Tag.sidedProxy.annotationName .default,
            values := [("clientSide", .str "int")] }] }] }]

/-- The primitive is taken for the proxy's class, although it is no reference type, and a round has
nothing to report. -/
theorem exists_round_keywordProxyExample :
    ∃ (cx : Context) (attached : Attachment) (t : TypeId) (summary : RoundSummary),
      keywordProxyExample.load = .ok cx.program ∧ Context.ofProgram cx.program .default = .ok cx ∧
      cx.program.kindOf 2 = .ok .field ∧ cx.program.Carries .default 2 .sidedProxy ∧
      cx.program.attachment 1 = .ok attached ∧ attached.Names "clientSide" "int" ∧
      (cx.ensureClassExists 2 1 "clientSide").after [] = (.ok (some t), []) ∧
      ¬ cx.program.IsReference t ∧ round cx.program .default = .ok (.ok summary, []) := by
  have hrun : (keywordProxyExample.load.toOption.any fun p =>
      (Context.ofProgram p .default).toOption.any fun cx =>
        (cx.program.attachment 1).toOption.any fun attached =>
          (attached.str? "clientSide").getD "" = "int" && cx.program.kindOf 2 = .ok .field &&
            cx.program.Carries .default 2 .sidedProxy && cx.program.typeId? "int" = some 5 &&
            (cx.ensureClassExists 2 1 "clientSide").after [] = (.ok (some 5), []) &&
            round cx.program .default = .ok (.ok ⟨2, 2⟩, [])) = true := by
    decide +kernel
  obtain ⟨p, hload, hfacts⟩ := (Option.any_eq_true _ _).1 hrun
  obtain ⟨cx, hcx, hfacts⟩ := (Option.any_eq_true _ _).1 hfacts
  obtain ⟨attached, hattached, hfacts⟩ := (Option.any_eq_true _ _).1 hfacts
  simp only [Bool.and_eq_true, decide_eq_true_eq, toOption_eq_some_iff] at hload hcx hattached hfacts
  obtain ⟨⟨⟨⟨⟨hvalue, hkind⟩, hcarries⟩, hint⟩, hfound⟩, hround⟩ := hfacts
  obtain ⟨rfl, -, -⟩ := Context.ofProgram_eq_ok_iff.1 hcx
  exact ⟨cx, attached, 5, ⟨2, 2⟩, hload, hcx, hkind, hcarries, hattached,
    Attachment.names_iff.2 ⟨hvalue, by decide⟩, hfound,
    fun href => href.noKeyword "int" (by decide) hint, hround⟩

end Snapshot

end ModContracts
