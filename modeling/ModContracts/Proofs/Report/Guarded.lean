import ModContracts.Report
import ModContracts.Proofs.Results
import ModContracts.Proofs.Round.Faults

/-!
# Guarded reports

Locations come from a snapshot as they are. What draws a report is asked only for spans of the source
that was read, whatever the locations of a program are, and every other diagnostic is shown in one line.
So a run breaks off in its reports only where drawing breaks off over such a span.

* `Report.Request.InSource` — the bytes of a request are a span of its source;
* `Diagnostic.Asks` — what a diagnostic asks to be drawn, if it asks at all;
* `Diagnostic.Guarded` — a diagnostic is drawn as it asks, or shown in one line, in any monad;
* `Diagnostics.reportsBy_eq_complete_iff`, `Diagnostics.reportsBy_complete_iff` — when all diagnostics are
  shown;
* `Diagnostics.reports_guarded` — drawing is guarded, and shows all if it never breaks off over a span;
* `Diagnostics.reports_complete_iff` — annotated reports are all shown unless a span cuts a character.
-/

namespace ModContracts

open Report

/-- Files that are read without an effect, in any monad. -/
def Files.lift {m : Type → Type} [Monad m] (files : Files Id) : Files m where
  read path := return files.read path
  isFile path := return files.isFile path

/-! ## Requests -/

/-- The bytes of a request are in order, and lie in its source. -/
def Report.Request.InSource (r : Request) : Prop :=
  r.start ≤ r.stop ∧ r.stop ≤ r.source.utf8ByteSize

instance Report.Request.decidableInSource (r : Request) : Decidable r.InSource :=
  inferInstanceAs (Decidable (_ ∧ _))

theorem Report.Drawing.shown_eq_none_iff {d : Diagnostic} {drawing : Drawing} :
    drawing.shown d = none ↔ drawing = .broken := by
  cases drawing <;> simp [shown]

namespace Diagnostic

variable {files : Files Id} {directory : String} {p : Program} {d : Diagnostic} {r : Request}

/-- What a diagnostic at a location would have drawn over a source. -/
def requestAt (d : Diagnostic) (source : String) (location : Location) : Request where
  source := source
  diagnostic := d
  start := location.start.toNat
  stop := location.stop.toNat

/-- A diagnostic asks for something to be drawn: its anchor has a location, the file there can be read,
and the location is a span of what was read. -/
def Asks (files : Files Id) (directory : String) (p : Program) (d : Diagnostic) (r : Request) : Prop :=
  ∃ location source, locate p d.anchor = some location ∧
    files.read (Path.join directory location.file) = .ok source ∧
    r = d.requestAt source location ∧ r.InSource

theorem Asks.unique {r' : Request} (h : d.Asks files directory p r)
    (h' : d.Asks files directory p r') : r = r' := by
  obtain ⟨location, source, hlocation, hread, rfl, -⟩ := h
  obtain ⟨location', source', hlocation', hread', rfl, -⟩ := h'
  obtain rfl := Option.some.inj (hlocation.symm.trans hlocation')
  obtain rfl := Except.ok.inj (hread.symm.trans hread')
  rfl

/-- The check of a location against a source. -/
theorem outside_iff (source : String) (location : Location) :
    (location.stop < location.start || source.utf8ByteSize < location.stop.toNat) = true ↔
      ¬ (d.requestAt source location).InSource := by
  rw [Bool.or_eq_true, decide_eq_true_eq, decide_eq_true_eq, UInt64.lt_iff_toNat_lt,
    ← Nat.not_le, ← Nat.not_le, ← not_and_or]
  rfl

/-! ## One report -/

section

variable {m : Type → Type} [Monad m] {draw : Builder m}

/-- A diagnostic is drawn as it asks, or shown in one line. -/
structure Guarded (files : Files Id) (draw : Builder m) (directory : String) (p : Program)
    (d : Diagnostic) : Prop where
  /-- Nothing is drawn, or one request is, and that is a span of the source that was read. -/
  spansOnly : d.report files.lift draw directory p = pure (some d.text) ∨
    ∃ r, d.Asks files directory p r ∧ r.start ≤ r.stop ∧ r.stop ≤ r.source.utf8ByteSize ∧
      d.report files.lift draw directory p = Drawing.shown d <$> draw r
  usable : ∀ location source, locate p d.anchor = some location →
    files.read (Path.join directory location.file) = .ok source →
    location.start ≤ location.stop → location.stop.toNat ≤ source.utf8ByteSize →
    d.report files.lift draw directory p = Drawing.shown d <$> draw (d.requestAt source location)
  unlocated : locate p d.anchor = none →
    d.report files.lift draw directory p = pure (some d.text)
  unreadable : ∀ location error, locate p d.anchor = some location →
    files.read (Path.join directory location.file) = .error error →
    d.report files.lift draw directory p = pure (some d.text)
  unusable : ∀ location source, locate p d.anchor = some location →
    files.read (Path.join directory location.file) = .ok source →
    location.stop < location.start ∨ source.utf8ByteSize < location.stop.toNat →
    d.report files.lift draw directory p = pure (some d.text)

theorem report_unlocated (hlocation : locate p d.anchor = none) :
    d.report files.lift draw directory p = pure (some d.text) := by
  rw [report, hlocation]

variable [LawfulMonad m]

/-- A diagnostic with a location is shown by what is read there. -/
theorem report_located {location : Location} (hlocation : locate p d.anchor = some location) :
    d.report files.lift draw directory p =
      match files.read (Path.join directory location.file) with
      | .error _ => pure (some d.text)
      | .ok source =>
        if (d.requestAt source location).InSource then
          Drawing.shown d <$> draw (d.requestAt source location)
        else pure (some d.text) := by
  rw [report, hlocation]
  dsimp only
  rw [show files.lift.read (Path.join directory location.file) =
    (pure (files.read (Path.join directory location.file)) : m _) from rfl, pure_bind]
  cases files.read (Path.join directory location.file) with
  | error error => rfl
  | ok source =>
      by_cases h : (d.requestAt source location).InSource
      · have hguard := mt (outside_iff source location).1 (not_not.2 h)
        dsimp only
        rw [if_neg hguard, if_pos h, map_eq_pure_bind]
        rfl
      · dsimp only
        rw [if_pos ((outside_iff source location).2 h), if_neg h]

theorem report_of_asks (h : d.Asks files directory p r) :
    d.report files.lift draw directory p = Drawing.shown d <$> draw r := by
  obtain ⟨location, source, hlocation, hread, rfl, hspan⟩ := h
  rw [report_located hlocation, hread]
  exact if_pos hspan

/-- What asks for nothing is shown in one line. -/
theorem report_of_not_asks (h : ∀ r, ¬ d.Asks files directory p r) :
    d.report files.lift draw directory p = pure (some d.text) := by
  cases hlocation : locate p d.anchor with
  | none => exact report_unlocated hlocation
  | some location =>
      rw [report_located hlocation]
      cases hread : files.read (Path.join directory location.file) with
      | error error => rfl
      | ok source =>
          exact if_neg fun hspan => h _ ⟨location, source, hlocation, hread, rfl, hspan⟩

theorem guarded (files : Files Id) (draw : Builder m) (directory : String) (p : Program)
    (d : Diagnostic) : d.Guarded files draw directory p where
  spansOnly := by
    by_cases h : ∃ r, d.Asks files directory p r
    · obtain ⟨r, hr⟩ := h
      obtain ⟨_, _, _, _, _, hle, hsize⟩ := id hr
      exact .inr ⟨r, hr, hle, hsize, report_of_asks hr⟩
    · exact .inl (report_of_not_asks (not_exists.1 h))
  usable location source hlocation hread hle hsize :=
    report_of_asks ⟨location, source, hlocation, hread, rfl, UInt64.le_iff_toNat_le.1 hle, hsize⟩
  unlocated := report_unlocated
  unreadable location error hlocation hread := by
    rw [report_located hlocation, hread]
  unusable location source hlocation hread hunusable := by
    have houtside : (location.stop < location.start ||
        source.utf8ByteSize < location.stop.toNat) = true := by simpa using hunusable
    rw [report_located hlocation, hread]
    exact if_neg ((outside_iff source location).1 houtside)

end

/-- Nothing is shown of a diagnostic exactly where drawing breaks off at what it asks for. -/
theorem report_eq_none_iff {draw : Builder Id} :
    d.report files draw directory p = (none : Option String) ↔
      ∃ r, d.Asks files directory p r ∧ draw r = Drawing.broken := by
  have hasks {r : Request} (hr : d.Asks files directory p r) :
      d.report files draw directory p = (draw r).shown d := report_of_asks (m := Id) hr
  by_cases h : ∃ r, d.Asks files directory p r
  · obtain ⟨r, hr⟩ := h
    rw [hasks hr, Drawing.shown_eq_none_iff]
    constructor
    · exact fun hbroken => ⟨r, hr, hbroken⟩
    · rintro ⟨r', hr', hbroken⟩
      rwa [hr.unique hr']
  · have hline : d.report files draw directory p = some d.text :=
      report_of_not_asks (m := Id) (not_exists.1 h)
    rw [hline]
    exact iff_of_false nofun fun ⟨r, hr, _⟩ => h ⟨r, hr⟩

end Diagnostic

/-! ## All reports -/

namespace Diagnostics

variable {files : Files Id} {draw : Builder Id} {directory : String} {p : Program} {ds : Diagnostics}

/-- The first diagnostic is shown before the others, and breaks the run off if it is not shown. -/
theorem reportsBy_cons (d : Diagnostic) (rest : Diagnostics) :
    (reportsBy files draw directory p (d :: rest) : List String × Bool) =
      match (d.report files draw directory p : Option String) with
      | none => ([], false)
      | some text =>
        (text :: (reportsBy files draw directory p rest : List String × Bool).1,
          (reportsBy files draw directory p rest : List String × Bool).2) := by
  change (match (d.report files draw directory p : Option String) with
    | none => ([], false)
    | some text => _) = _
  cases (d.report files draw directory p : Option String) <;> rfl

/-- A run that is complete has shown each diagnostic. -/
theorem reportsBy_eq_complete_iff {texts : List String} :
    reportsBy files draw directory p ds = ((texts, true) : List String × Bool) ↔
      List.Forall₂ (fun d text => d.report files draw directory p = some text) ds texts := by
  induction ds generalizing texts with
  | nil =>
      rw [List.forall₂_nil_left_iff]
      constructor
      · intro h
        exact (Prod.mk.inj h).1.symm
      · rintro rfl
        rfl
  | cons d rest ih =>
      rw [reportsBy_cons, List.forall₂_cons_left_iff]
      cases hreport : (d.report files draw directory p : Option String) with
      | none =>
          constructor
          · intro h
            cases (Prod.mk.inj h).2
          · rintro ⟨_, _, ⟨⟩, _⟩
      | some text =>
          constructor
          · intro h
            obtain ⟨rfl, hcomplete⟩ := Prod.mk.inj h
            exact ⟨text, _, rfl, ih.1 (Prod.ext rfl hcomplete), rfl⟩
          · rintro ⟨_, others, heq, hothers, rfl⟩
            obtain rfl := Option.some.inj heq
            rw [ih.2 hothers]

/-- A run is complete exactly when drawing does not break off at anything that is asked for. -/
theorem reportsBy_complete_iff :
    (∃ texts, reportsBy files draw directory p ds = ((texts, true) : List String × Bool)) ↔
      ∀ d ∈ ds, ∀ r, d.Asks files directory p r → draw r ≠ Drawing.broken := by
  simp only [reportsBy_eq_complete_iff, exists_forall₂_iff]
  refine forall₂_congr fun d _ => ?_
  constructor
  · rintro ⟨text, htext⟩ r hr hbroken
    have hnone := Diagnostic.report_eq_none_iff.2 ⟨r, hr, hbroken⟩
    cases htext.symm.trans hnone
  · intro h
    refine Option.ne_none_iff_exists'.1 fun hnone => ?_
    obtain ⟨r, hr, hbroken⟩ := Diagnostic.report_eq_none_iff.1 hnone
    exact h r hr hbroken

/-- Whatever the locations of a program are, a report is drawn only over a span of the source that was
read, and a diagnostic that has no such span is shown in one line. So if drawing does not break off over
spans of a source, every run shows all of its diagnostics. -/
theorem reports_guarded (files : Files Id) (directory : String) (p : Program) :
    (∀ {m : Type → Type} [Monad m] [LawfulMonad m] (draw : Builder m) (d : Diagnostic),
      d.Guarded files draw directory p) ∧
    ∀ draw : Builder Id, (∀ r : Request, r.InSource → draw r ≠ Drawing.broken) →
      ∀ ds : Diagnostics, ∃ texts,
        reportsBy files draw directory p ds = ((texts, true) : List String × Bool) ∧
        List.Forall₂ (fun d text => d.report files draw directory p = some text) ds texts := by
  refine ⟨fun draw d => d.guarded files draw directory p, fun draw hdraw ds => ?_⟩
  have hasked : ∀ d ∈ ds, ∀ r, d.Asks files directory p r → draw r ≠ Drawing.broken := by
    rintro d - r ⟨_, _, _, _, _, hspan⟩
    exact hdraw r hspan
  obtain ⟨texts, htexts⟩ := reportsBy_complete_iff.2 hasked
  exact ⟨texts, htexts, reportsBy_eq_complete_iff.1 htexts⟩

/-- A class that is no proper mod, at some place. -/
def oddMod (name : String) (location? : Option Location) : DeclSpec where
  kind := .classType
  name := name
  attachments := [{ type := Tag.mod.annotationName .default }]
  location? := location?

/-- A class without a place, one in a file that is not there, one at a place that is the wrong way
round, one at a place that ends beyond the file, and one at a place in the file. -/
def oddPlacesExample : Snapshot where
  types := Snapshot.frameworkTypes .default
  declarations := [oddMod "a.Nowhere" none, oddMod "a.Gone" (some ⟨"Gone.java", 0, 5⟩),
    oddMod "a.Reversed" (some ⟨"A.java", 9, 2⟩), oddMod "a.Beyond" (some ⟨"A.java", 0, 4000⟩),
    oddMod "a.Placed" (some ⟨"A.java", 0, 5⟩)]

/-- Files of which one can be read. -/
def oneFile : Files Id where
  read path := return if path = "A.java" then .ok "class A" else .error .notFound
  isFile path := return path = "A.java"

/-- Draws annotated reports, and gives up where they break off. -/
def drawOrFail (r : Request) : Drawing :=
  match Report.draw false r with
  | .broken => .failed
  | drawing => drawing

theorem exists_reportsBy_oddPlacesExample :
    ∃ p summary ds texts, oddPlacesExample.load = .ok p ∧
      round p .default = .ok (.ok summary, ds) ∧ ds.length = 10 ∧
      reportsBy oneFile drawOrFail "" p ds = ((texts, true) : List String × Bool) ∧
      ∀ d ∈ ds, d.anchor ≠ .declaration 4 → d.report oneFile drawOrFail "" p = some d.text := by
  have hrun : (oddPlacesExample.load.toOption.any fun p =>
      (round p .default).toOption.any fun result => result.1.toOption.isSome &&
        result.2.length = 10 && locate p (.declaration 0) = none &&
        locate p (.declaration 1) = some ⟨"Gone.java", 0, 5⟩ &&
        locate p (.declaration 2) = some ⟨"A.java", 9, 2⟩ &&
        locate p (.declaration 3) = some ⟨"A.java", 0, 4000⟩ &&
        result.2.all fun d => (List.range 5).any fun i => d.anchor = .declaration i) = true := by
    decide +kernel
  obtain ⟨p, hp, hrun⟩ := (Option.any_eq_true _ _).1 hrun
  obtain ⟨⟨outcome, ds⟩, hround, hfacts⟩ := (Option.any_eq_true _ _).1 hrun
  simp only [Bool.and_eq_true, decide_eq_true_eq, toOption_eq_some_iff] at hp hround hfacts
  obtain ⟨⟨⟨⟨⟨⟨hsome, hlength⟩, hnowhere⟩, hgone⟩, hreversed⟩, hbeyond⟩, hanchors⟩ := hfacts
  obtain ⟨summary, hsummary⟩ := Option.isSome_iff_exists.1 hsome
  obtain rfl := toOption_eq_some_iff.1 hsummary
  obtain ⟨hguarded, hcomplete⟩ := reports_guarded oneFile "" p
  have hdraw (r : Request) (_ : r.InSource) : drawOrFail r ≠ .broken := by
    unfold drawOrFail
    cases Report.draw false r <;> simp
  obtain ⟨texts, htexts, -⟩ := hcomplete drawOrFail hdraw ds
  refine ⟨p, summary, ds, texts, hp, hround, hlength, htexts, fun d hd hplaced => ?_⟩
  have hjoin : Path.join "" "A.java" = "A.java" ∧ Path.join "" "Gone.java" = "Gone.java" := by
    decide +kernel
  have hread : oneFile.read (Path.join "" "A.java") = Except.ok "class A" := by
    rw [hjoin.1]
    rfl
  have hmissing : oneFile.read (Path.join "" "Gone.java") = Except.error FileError.notFound := by
    rw [hjoin.2]
    rfl
  obtain ⟨i, hi, hanchor⟩ := List.any_eq_true.1 (List.all_eq_true.1 hanchors d hd)
  have hanchor : d.anchor = .declaration i := of_decide_eq_true hanchor
  have hlocated := congrArg (locate p) hanchor
  have hd' := hguarded (m := Id) drawOrFail d
  match i, List.mem_range.1 hi with
  | 0, _ => exact hd'.unlocated (hlocated.trans hnowhere)
  | 1, _ => exact hd'.unreadable _ _ (hlocated.trans hgone) hmissing
  | 2, _ => exact hd'.unusable _ _ (hlocated.trans hreversed) hread (.inl (by decide))
  | 3, _ => exact hd'.unusable _ _ (hlocated.trans hbeyond) hread (.inr (by decide))
  | 4, _ => exact absurd hanchor hplaced

end Diagnostics

/-! ## Annotated reports -/

/-- Over a span that is in order, an annotated report breaks off exactly where the span cuts a character
of the source. -/
theorem Report.draw_eq_broken_iff {colored : Bool} {r : Request} (h : r.start ≤ r.stop) :
    draw colored r = .broken ↔ Placement.of r.source ⟨r.start, r.stop, h⟩ = .cutting := by
  rw [draw, Span.of?, dif_pos h]
  dsimp only
  unfold render
  dsimp only
  cases Placement.of r.source ⟨r.start, r.stop, h⟩ <;> simp

/-- All diagnostics of a run are shown exactly when none of them is at a span that cuts a character of
the source that was read. -/
theorem Diagnostics.reports_complete_iff {files : Files Id} {colored : Bool} {directory : String}
    {p : Program} {ds : Diagnostics} :
    (∃ texts, reports files colored directory p ds = ((texts, true) : List String × Bool)) ↔
      ∀ d ∈ ds, ∀ r, d.Asks files directory p r →
        ∀ h : r.start ≤ r.stop, Placement.of r.source ⟨r.start, r.stop, h⟩ ≠ .cutting := by
  refine reportsBy_complete_iff.trans (forall₂_congr fun d _ => forall₂_congr fun r hr => ?_)
  obtain ⟨_, _, _, _, _, hle, _⟩ := id hr
  rw [forall_prop_of_true hle]
  exact not_congr (draw_eq_broken_iff hle)

end ModContracts
