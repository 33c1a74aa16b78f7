import ModContracts.Diagnostic.Collection
import ModContracts.Files
import ModContracts.Files.Path
import ModContracts.Report.Layout

/-!
# Reports of a run

A diagnostic is drawn over the file it is about where it has a place in a file that can be read, and
shown in one line where it has not. Drawing can fail, which leaves the one line as well, and it can break
off: that ends the run in the middle of its reports.

* `Report.Drawing` — what becomes of drawing; `Report.Builder` — a way to draw;
* `Report.draw` — the annotated report as a way to draw;
* `Diagnostic.report` — a diagnostic over the file that its anchor leads to;
* `Diagnostics.reportsBy` — diagnostics one after the other, as far as they can be shown;
* `Diagnostics.reports` — that, with annotated reports.
-/

namespace ModContracts

namespace Report

/-- What is to be drawn: a diagnostic over a source text, between two bytes. -/
structure Request where
  source : String
  diagnostic : Diagnostic
  start : Nat
  stop : Nat
  deriving DecidableEq, Repr

/-- What becomes of a request. -/
inductive Drawing where
  | text (report : String)
  /-- The report could not be written. -/
  | failed
  /-- Drawing broke off. -/
  | broken
  deriving DecidableEq, Repr

/-- What is shown of a diagnostic: its report, or the one line if that could not be written. -/
def Drawing.shown (d : Diagnostic) : Drawing → Option String
  | .text report => some report
  | .failed => some d.text
  | .broken => none

/-- A way to draw diagnostics. -/
abbrev Builder (m : Type → Type) := Request → m Drawing

/-- Draws an annotated report. It breaks off where the bytes are not in order, and where they cut a
character of the source. -/
def draw (colored : Bool) (r : Request) : Drawing :=
  match Span.of? r.start r.stop with
  | none => .broken
  | some span =>
    match render colored r.source r.diagnostic span with
    | some report => .text report
    | none => .broken

end Report

section

variable {m : Type → Type} [Monad m] (files : Files m) (draw : Report.Builder m)
  (directory : String) (p : Program)

/-- A diagnostic of a program over its file, looked for below a directory. -/
def Diagnostic.report (d : Diagnostic) : m (Option String) := do
  match locate p d.anchor with
  | none => return some d.text
  | some { file, start, stop } =>
    match ← files.read (Path.join directory file) with
    | .error _ => return some d.text
    | .ok source =>
      if stop < start || source.utf8ByteSize < stop.toNat then return some d.text
      else return (← draw ⟨source, d, start.toNat, stop.toNat⟩).shown d

/-- The reports of some diagnostics of a program, up to one that cannot be shown; and whether all
were. -/
def Diagnostics.reportsBy : Diagnostics → m (List String × Bool)
  | [] => return ([], true)
  | d :: rest => do
    match ← d.report files draw directory p with
    | none => return ([], false)
    | some text =>
      let (texts, complete) ← reportsBy rest
      return (text :: texts, complete)

end

/-- The annotated reports of some diagnostics of a program. -/
def Diagnostics.reports {m : Type → Type} [Monad m] (files : Files m) (colored : Bool)
    (directory : String) (p : Program) (ds : Diagnostics) : m (List String × Bool) :=
  reportsBy files (fun r => return Report.draw colored r) directory p ds

end ModContracts
