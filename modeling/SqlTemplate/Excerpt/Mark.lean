import SqlTemplate.Excerpt.Line
import SqlTemplate.Excerpt.Paint

/-! # Labels placed on the lines of a source

A label within one line is underlined. One that spans several lines is drawn in the margin, with an
arrow to its first line and to its last one.
-/
namespace SqlTemplate.Excerpt

/-- A message about a range of characters. -/
structure Label where
  span : Span
  message : Text
  color : Color
deriving DecidableEq, Repr

namespace Label

/-- The position of the last character; of an empty label, its start. -/
def last (l : Label) : Nat := max (l.span.stop - 1) l.span.start

/-- The lines of the first and the last character, if both lie in the source. -/
def lines? (lines : List Line) (l : Label) : Option (Nat × Nat) := do
  let (first, _) ← locate? lines l.span.start
  if l.span.start < l.span.stop then
    let (last, _) ← locate? lines (l.span.stop - 1)
    return (first, last)
  else
    return (first, first)

end Label

/-- A label that lies in the source. -/
structure Mark where
  /-- Tells marks apart. -/
  index : Nat
  label : Label
  /-- Whether it spans several lines. -/
  long : Bool
deriving DecidableEq, Repr

namespace Mark

def span (m : Mark) : Span := m.label.span

/-- Marks for the labels that lie in the source, in the order given. -/
def ofLabels (lines : List Line) (labels : List Label) : List Mark :=
  labels.zipIdx.filterMap fun (l, i) =>
    (l.lines? lines).map fun (first, last) => ⟨i, l, first != last⟩

def longest (marks : List Mark) : List Mark :=
  (marks.filter Mark.long).mergeSort fun a b => b.span.size ≤ a.span.size

inductive Meeting where
  | begins
  | ends
  | passes
deriving DecidableEq, Repr

/-- A mark that starts where the next line does meets the line already. -/
def meeting? (m : Mark) (line : Line) : Option Meeting :=
  if m.span.start ≤ line.span.stop && line.span.start < m.span.stop then
    if line.span.contains m.span.start then some .begins
    else if line.span.contains m.label.last then some .ends
    else some .passes
  else none

end Mark

/-- A mark at a column of a line, where its stem or arrow stands. -/
structure Anchor where
  column : Nat
  mark : Mark
  /-- Whether the message belongs here; that of a long mark stands at its end. -/
  drawsMessage : Bool
deriving DecidableEq, Repr

namespace Anchor

/-- From left to right, and among marks of one column the later start first. -/
def before (a b : Anchor) : Bool :=
  a.column < b.column || (a.column == b.column && b.mark.span.start ≤ a.mark.span.start)

/-- Where a long mark begins or ends on the line. -/
def ofLong? (line : Line) (m : Mark) : Option Anchor :=
  if line.span.contains m.span.start then some ⟨m.span.start - line.offset, m, false⟩
  else if line.span.contains m.label.last then some ⟨m.label.last - line.offset, m, true⟩
  else none

/-- The middle of a short mark that lies within the line. -/
def ofShort? (line : Line) (m : Mark) : Option Anchor :=
  if !m.long && line.span.start ≤ m.span.start && m.span.stop ≤ line.span.stop then
    some ⟨max ((m.span.start + m.span.stop) / 2) m.span.start - line.offset, m, true⟩
  else none

/-- The first long mark on the line: an arrow in the margin points at the line itself. -/
def margin? (line : Line) (long : List Mark) : Option Anchor :=
  (long.filterMap (ofLong? line)).foldl
    (fun best a => match best with
      | none => some a
      | some b => if b.before a then some b else some a)
    none

/-- The marks that get an arrow below the line, in drawing order. The long mark in the margin is
among them only where it ends. -/
def list (line : Line) (marks long : List Mark) (margin : Option Anchor) : List Anchor :=
  let atStart (a : Anchor) : Bool :=
    margin.any fun m => m.mark.index == a.mark.index && !a.drawsMessage
  ((long.filterMap (ofLong? line)).filter fun a => !atStart a) ++ marks.filterMap (ofShort? line)
    |>.mergeSort before

end Anchor

end SqlTemplate.Excerpt
