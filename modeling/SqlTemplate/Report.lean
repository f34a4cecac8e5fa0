import SqlTemplate.Excerpt.Row
import SqlTemplate.Statement

/-! # Reports: a heading, an excerpt of the source with labels, and advice

Spans of a template count bytes and labels count characters; a report reads the one as the other.
So labels are in place where the template is ASCII up to their end, and else lie further right or
beyond the source, where they are left out.
-/
namespace SqlTemplate

open Excerpt

inductive Severity where
  | error
  | advice
deriving DecidableEq, Repr

structure Report where
  severity : Severity
  message : Text
  /-- The position that the heading of the excerpt names. -/
  position : Nat
  labels : List Label
  help : Option Text
deriving DecidableEq, Repr

namespace Report

def heading (r : Report) : Text :=
  (match r.severity with
    | .error => paint .red "Error:".toList
    | .advice => paint .advice "Advice:".toList) ++ ' ' :: r.message ++ ['\n']

/-- The span from the first start to the last end. -/
def hull (first : Mark) (rest : List Mark) : Span :=
  rest.foldl (fun s m => ⟨min s.start m.span.start, max s.stop m.span.stop⟩) first.span

/-- The lines that an excerpt shows, by number: all that the hull of its marks meets. -/
def lineRange (lines : List Line) (s : Span) : Span :=
  let first := ((locate? lines s.start).map Prod.fst).getD 0
  let last := (locate? lines (max (s.stop - 1) s.start)).map Prod.fst
  ⟨first, (last.map (· + 1)).getD lines.length⟩

/-- How many powers of ten from `p` on are not above `n`, one after another, of at most `steps`. -/
def countPowers (n : Nat) : Nat → Nat → Nat
  | 0, _ => 0
  | steps + 1, p => if n / p = 0 then 0 else countPowers n steps (10 * p % UInt32.size) + 1

/-- The columns for line numbers up to the given one. Number and powers are taken in 32 bits, where
every power behind the 31st is zero. -/
def numberColumns (number : Nat) : Nat := countPowers (number % UInt32.size) 31 10 + 1

def rows (lines : List Line) (marks : List Mark) (range : Span) : List Row :=
  let long := Mark.longest marks
  rowsOf false (((lines.zipIdx.drop range.start).take range.size).map fun (l, n) =>
    Sheet.make marks long n l)

/-- The left edge of a row, for line numbers of the given width. -/
def edge (width : Nat) (number : Option Nat) (bar : Char) : Text :=
  let text := match number with
    | some n =>
      let digits := Text.decimal (n + 1)
      paint .frame (List.replicate (width - digits.length) ' ' ++ digits ++ [' ', bar])
    | none => paint .dimFrame (List.replicate (width + 1) ' ' ++ [bar])
  ' ' :: text ++ [' ']

def cells (cs : List Cell) : Text := cs.flatMap Cell.render

def renderRow (width : Nat) : Row → Text
  | .source n false margin body => edge width (some n) '│' ++ cells margin ++ cells body ++ ['\n']
  | .source _ true margin body => edge width none '┆' ++ cells margin ++ cells body ++ ['\n']
  | .skipped => edge width none '│' ++ ['\n']
  | .stems _ margin body => edge width none '│' ++ cells margin ++ cells body ++ ['\n']
  | .arrow _ margin body message =>
    edge width none '│' ++ cells margin ++ cells body ++
      (match message with
        | some m => ' ' :: m
        | none => []) ++ ['\n']

/-- The line and column of a position, both from one. -/
def place (lines : List Line) (position : Nat) : Text :=
  match locate? lines position with
  | some (line, column) => Text.decimal (line + 1) ++ ':' :: Text.decimal (column + 1)
  | none => ['?', ':', '?']

/-- The name of the source and the place of the report's position in it. -/
def caption (width : Nat) (lines : List Line) (filename : Text) (position : Nat) : Text :=
  let indent := List.replicate (width + 2) ' '
  let glyph (c : Char) := paint .frame [c]
  indent ++ glyph '╭' ++ glyph '─' ++ glyph '[' ++ filename ++ ':' :: place lines position ++
    glyph ']' ++ '\n' :: indent ++ glyph '│' ++ ['\n']

/-- The rows with advice, beside the margin of the first line. -/
def helpRows (width : Nat) (lines : List Line) (marks : List Mark) (help : Text) : Text :=
  let margin := match lines with
    | [] => []
    | l :: _ =>
      let s : Sheet := ⟨0, l, marks, Mark.longest marks, none, []⟩
      edge width none '│' ++ cells (s.rowMargin 0 false)
  margin ++ '\n' :: margin ++ paint .help "Help".toList ++ ": ".toList ++ help ++ ['\n']

def closing (width : Nat) : Text :=
  paint .frame (List.replicate (width + 2) '─' ++ ['╯']) ++ ['\n']

/-- A report in full. Without a label in the source there is no excerpt, only the heading. -/
def render (r : Report) (source filename : Text) : Text :=
  let lines := Line.split source
  let marks := Mark.ofLabels lines r.labels
  r.heading ++
    match marks with
    | [] => []
    | first :: rest =>
      let range := lineRange lines (hull first rest)
      let width := numberColumns range.stop
      caption width lines filename r.position ++
        (rows lines marks range).flatMap (renderRow width) ++
        ((r.help.map (helpRows width lines marks)).getD []) ++
        closing width

end Report

def OpenLiteral.report (e : OpenLiteral) : Report where
  severity := .error
  message := "Unterminated string literal".toList
  position := e.span.start
  labels := [⟨e.span,
    if e.holdsPattern then "literal contains a pattern but has no closing quote".toList
    else "literal has no closing quote".toList, .red⟩]
  help := some "close the literal with ' or double embedded quotes as ''".toList

/-- The text of that report. There is none for a span that ends before it starts. -/
def OpenLiteral.format? (e : OpenLiteral) (source filename : Text) : Option Text :=
  if e.span.stop < e.span.start then none else some (e.report.render source filename)

namespace Statement

def patternSegments (s : Statement) : List Segment := s.segments.filter fun g => g.kind = .pattern

/-- The report that numbers the patterns of a template. -/
def explanation (s : Statement) : Report where
  severity := .advice
  message := Text.decimal s.placeholderCount ++ " placeholder(s) in template".toList
  position := 0
  labels := s.patternSegments.zipIdx.map fun (g, i) =>
    ⟨g.span, "placeholder ".toList ++ Text.decimal (i + 1), .cyan⟩
  help := none

def explain (s : Statement) (source filename : Text) : Text :=
  s.explanation.render source filename

end Statement

end SqlTemplate
