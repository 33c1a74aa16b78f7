import ModContracts.Diagnostic
import ModContracts.Report.Source
import ModContracts.Text.Width

/-!
# Annotated reports

A diagnostic shown over the source it is about: a heading, the place, the first and last line of the
span with the span marked, and the message again at the mark.

* `Span` — bytes from a start to a stop that is not before it;
* `Marked` — a span in lines and characters; `Placement` — that, or why there is none;
* `render` — the report.

Line numbers stand in a margin that is wide enough for the last line shown. A tab fills up to the
next multiple of four characters, other white space takes one column, and every other character the
columns that it has on a terminal. Marks are drawn under columns, so a character without a column has
no mark.
-/

namespace ModContracts.Report

/-- A span of bytes. -/
structure Span where
  start : Nat
  stop : Nat
  start_le_stop : start ≤ stop
  deriving DecidableEq, Repr

/-- The span between two bytes, if they are in order. -/
def Span.of? (start stop : Nat) : Option Span :=
  if h : start ≤ stop then some ⟨start, stop, h⟩ else none

/-! ## Spans in characters -/

/-- A span in lines and characters. -/
structure Marked where
  /-- The first line of the span. -/
  first : Line
  /-- The last line of the span. -/
  last : Line
  /-- The characters before the span. -/
  start : Nat
  /-- The characters up to the end of the span. -/
  stop : Nat
  deriving DecidableEq, Repr

/-- How a span lies in a source. -/
inductive Placement where
  /-- It begins or ends beyond the source. -/
  | beyond
  /-- It begins inside of a character, or ends inside of one or behind the last one of a line. -/
  | cutting
  | marked (m : Marked)
  deriving DecidableEq, Repr

/-- The place of a span in a source. An empty span is a place on one line; a span that is not empty
ends on the line of its last byte. -/
def Placement.of (source : String) (span : Span) : Placement :=
  match lineAt? source span.start with
  | none => .beyond
  | some (first, bytes) =>
    match Line.charsIn? (min bytes (byteCount first.chars)) first.chars with
    | none => .cutting
    | some column =>
      let start := first.offset + column
      if span.stop ≤ span.start then .marked ⟨first, first, start, start⟩
      else
        match lineAt? source (span.stop - 1) with
        | none => .beyond
        | some (last, bytes) =>
          match Line.charsIn? (bytes + 1) last.chars with
          | none => .cutting
          | some column => .marked ⟨first, last, start, last.offset + column⟩

/-! ## Pieces of a line -/

/-- Colours by their terminal codes. -/
structure Palette where
  /-- Whether colours are used at all. -/
  colored : Bool

namespace Palette

/-- A text in a colour. -/
def paint (p : Palette) (code : String) (text : String) : String :=
  if p.colored then "\x1b[" ++ code ++ "m" ++ text ++ "\x1b[0m" else text

/-- The colour of the margin. -/
def margin : String := "38;5;246"

/-- The colour of the margin beside marks. -/
def skippedMargin : String := "38;5;240"

/-- The colour of source text outside of the span. -/
def unimportant : String := "38;5;249"

end Palette

/-- The colour of a severity. -/
def severityColor : Severity → String
  | .error => "31"
  | .warning => "33"

/-- A severity as the heading of a report. -/
def severityHeading : Severity → String
  | .error => "Error"
  | .warning => "Warning"

/-- A text repeated. -/
def times (n : Nat) (text : String) : String :=
  String.join (List.replicate n text)

/-- A text drawn over so many columns: one piece in the first column and another in those after it.
Where there is no column nothing is drawn. -/
def drawn (columns : Nat) (head tail : String) : String :=
  match columns with
  | 0 => ""
  | more + 1 => head ++ times more tail

/-- The columns that a tab at a place of a line fills. -/
def tabWidth (place : Nat) : Nat :=
  (place / 4 + 1) * 4 - place

/-- The characters printed for a character at a place of a line. -/
def cells (c : Char) (place : Nat) : List Char :=
  if c = '\t' then List.replicate (tabWidth place) ' '
  else if Text.isBlank c then [' ']
  else [c]

/-- The columns of a character at a place of a line. -/
def charWidth (c : Char) (place : Nat) : Nat :=
  if c = '\t' then tabWidth place
  else if Text.isBlank c then 1
  else Text.width c

/-- The columns of a place of a line: those of its character, or one beyond the last character. -/
def placeWidth (text : List Char) (place : Nat) : Nat :=
  match text[place]? with
  | some c => charWidth c place
  | none => 1

/-! ## Rows -/

namespace Marked

variable (m : Marked) (p : Palette)

/-- The width of the line numbers: that of the last line shown. -/
def numberWidth : Nat :=
  (toString (m.last.index + 1)).length

/-- The source text of a line, coloured outside of the span. -/
def sourceText (l : Line) : String :=
  String.join <| l.trimmed.mapIdx fun place c =>
    let offset := l.offset + place
    String.join <| (cells c place).map fun cell =>
      if m.start ≤ offset && offset < m.stop then cell.toString
      else p.paint Palette.unimportant cell.toString

/-- The margin of a line with its number. -/
def numberMargin (l : Line) : String :=
  let number := toString (l.index + 1)
  " " ++ p.paint Palette.margin (times (m.numberWidth - number.length) " " ++ number ++ " │") ++ " "

/-- The margin of a row without a number. -/
def plainMargin (bar : String) : String :=
  " " ++ p.paint Palette.skippedMargin (times (m.numberWidth + 1) " " ++ bar) ++ " "

/-- The place in the line that carries the message. -/
def stemPlace : Nat :=
  (m.start + m.stop) / 2 - m.first.offset

/-- The row of marks under a span on one line. -/
def markRow : String :=
  let text := m.first.trimmed
  String.join <| (List.range (m.stop - m.first.offset + 2)).map fun place =>
    let offset := m.first.offset + place
    let inside := m.start ≤ offset && offset < m.stop
    let filler := if inside then "─" else " "
    let head := if place = m.stemPlace then (if inside then "┬" else "│") else filler
    drawn (placeWidth text place) head filler

/-- The row that leads from a span on one line to its message. -/
def stemRow : String :=
  let text := m.first.trimmed
  String.join <| (List.range (m.stop - m.first.offset + 2)).map fun place =>
    let filler := if place < m.stemPlace then " " else "─"
    let head := if place = m.stemPlace then "╰" else filler
    drawn (placeWidth text place) head filler

/-- The rows of a span on one line. -/
def singleRows (message : String) : List String :=
  [m.numberMargin p m.first ++ m.sourceText p m.first,
    m.plainMargin p "│" ++ m.markRow,
    m.plainMargin p "│" ++ m.stemRow ++ " " ++ message]

/-- The columns of the last line, its break included, and two more. -/
def lastWidth : Nat :=
  (List.range (m.last.chars.length + 2)).foldr (fun i width => placeWidth m.last.trimmed i + width) 0

/-- The rows of a span over several lines: the first, a gap if lines are left out, and the last. -/
def multiRows (message : String) : List String :=
  [m.numberMargin p m.first ++ "╭─▶ " ++ m.sourceText p m.first] ++
    (if m.first.index + 1 < m.last.index then [m.plainMargin p "┆" ++ "┆   "] else []) ++
    [m.numberMargin p m.last ++ "├─▶ " ++ m.sourceText p m.last,
      m.plainMargin p "│" ++ "│   " ++ times m.lastWidth " ",
      m.plainMargin p "│" ++ "╰───" ++ times m.lastWidth "─" ++ " " ++ message]

/-- The rows below the heading. -/
def rows (message : String) : List String :=
  let indent := times (m.numberWidth + 2) " "
  let place := s!" <unknown>:{m.first.index + 1}:{m.start - m.first.offset + 1} "
  [indent ++ p.paint Palette.margin "╭" ++ p.paint Palette.margin "─" ++
      p.paint Palette.margin "[" ++ place ++ p.paint Palette.margin "]",
    indent ++ p.paint Palette.margin "│"] ++
    (if m.first.index = m.last.index then m.singleRows p message else m.multiRows p message) ++
    [p.paint Palette.margin (times (m.numberWidth + 2) "─" ++ "╯")]

end Marked

/-- The heading of a report. -/
def heading (p : Palette) (d : Diagnostic) : String :=
  p.paint (severityColor d.severity) s!"[{d.code.number}] {severityHeading d.severity}:" ++ " " ++
    d.message

/-- The report of a diagnostic about a span of a source. A span beyond the source leaves the heading
alone, and nothing can be shown of a span that cuts a character. -/
def render (colored : Bool) (source : String) (d : Diagnostic) (span : Span) : Option String :=
  let p : Palette := ⟨colored⟩
  let lines (below : List String) : String := String.join ((heading p d :: below).map (· ++ "\n"))
  match Placement.of source span with
  | .beyond => some (lines [])
  | .cutting => none
  | .marked m => some (lines (m.rows p d.message))

end ModContracts.Report
