import SqlTemplate.Excerpt.CharWidth
import SqlTemplate.Excerpt.Mark

/-! # The rows of an excerpt

Below each line with labels stand two rows for each of them: one of stems that lead down to the
labels still to come, and one with an arrow to the label's message.
-/
namespace SqlTemplate.Excerpt

inductive Row where
  /-- A line of the source. An elided one stands for the lines inside a long label. -/
  | source (line : Nat) (elided : Bool) (margin body : List Cell)
  /-- Stands for lines without labels. -/
  | skipped
  | stems (line : Nat) (margin body : List Cell)
  | arrow (line : Nat) (margin body : List Cell) (message : Option Text)
deriving DecidableEq, Repr

/-- A line with what is drawn on it. -/
structure Sheet where
  number : Nat
  line : Line
  /-- All marks, and the long ones among them, longest first. -/
  marks : List Mark
  long : List Mark
  /-- The long mark whose arrow in the margin points at the line. -/
  margin : Option Anchor
  anchors : List Anchor

namespace Sheet

def make (marks long : List Mark) (number : Nat) (line : Line) : Sheet :=
  let margin := Anchor.margin? line long
  ⟨number, line, marks, long, margin, Anchor.list line marks long margin⟩

/-- Columns of the margin: one for each long mark and one for the arrow's head. -/
def marginColumns (s : Sheet) : List Nat :=
  if s.long.isEmpty then [] else List.range (s.long.length + 1)

def isMargin (s : Sheet) (m : Mark) : Bool := s.margin.any fun a => a.mark.index == m.index

/-- The position of the margin's own mark among the long ones. -/
def marginIndex? (s : Sheet) : Option Nat := s.long.findIdx? s.isMargin

def blanks : List Cell := [.blank, .blank]

/-- The margin beside a line of the source. -/
def sourceMargin (s : Sheet) (elided : Bool) : List Cell :=
  s.marginColumns.flatMap fun column =>
    let arrow : List Cell := match s.margin, s.marginIndex? with
      | some a, some i =>
        if i ≤ column then
          let c := a.mark.label.color
          if column == s.long.length then [.painted c '▶', .painted c ' ']
          else if column == i then
            [.painted c (if a.drawsMessage then '├' else '╭'), .painted c '─']
          else [.painted c '─', .painted c '─']
        else blanks
      | _, _ => blanks
    match s.long[column]? with
    | none => arrow
    | some m =>
      match m.meeting? s.line with
      | some .begins | none => arrow
      | some .ends => if s.isMargin m then arrow else bar m
      | some .passes => bar m
where
  bar (m : Mark) : List Cell := [.painted m.label.color (if elided then '┆' else '│'), .blank]

/-- The row of a mark's arrow; that of a mark without one counts as the first. -/
def rowOf (s : Sheet) (m : Mark) : Nat :=
  (s.anchors.findIdx? fun a => a.mark.index == m.index).getD 0

/-- Whether a long mark is joined with its arrow in a row. -/
def joins (s : Sheet) (row : Nat) (m : Mark) : Bool :=
  row == s.rowOf m &&
    match m.meeting? s.line with
    | some .begins => !s.isMargin m
    | some .ends => true
    | _ => false

/-- Whether a long mark runs down through a row without being joined. -/
def runsThrough (s : Sheet) (row : Nat) (m : Mark) : Bool :=
  match m.meeting? s.line with
  | none => false
  | some .passes => true
  | some .begins => if row == s.rowOf m then s.isMargin m else s.rowOf m < row
  | some .ends => row ≤ s.rowOf m

/-- The margin beside a row of stems or an arrow. -/
def rowMargin (s : Sheet) (row : Nat) (arrow : Bool) : List Cell :=
  s.marginColumns.flatMap fun column =>
    let own := s.long[column]?
    match own.filter fun m => arrow && s.joins row m with
    | some m =>
      let c := m.label.color
      [.painted c (if m.meeting? s.line = some .begins then '╭' else '╰'), .painted c '─']
    | none =>
      match ((s.long.take (column + 1)).filter fun m => arrow && s.joins row m).getLast? with
      | some m => [.painted m.label.color '─', .painted m.label.color '─']
      | none =>
        match own.filter (s.runsThrough row) with
        | some m => [.painted m.label.color '│', .blank]
        | none => blanks

/-- The line as it is shown, without the blanks at its end. -/
def shown (s : Sheet) : Text := Text.trimEnd s.line.text

/-- The first of the marks with the least span. -/
def narrowest (marks : List Mark) : Option Mark :=
  marks.foldl
    (fun best m => match best with
      | none => some m
      | some b => if b.span.size ≤ m.span.size then some b else some m)
    none

/-- The colour of a column of the line: that of the narrowest mark over it. -/
def colorAt (s : Sheet) (column : Nat) : Color :=
  let covering := ((s.margin.map Anchor.mark).toList ++ s.long ++ s.anchors.map Anchor.mark).filter
    fun m => m.span.contains (s.line.offset + column)
  ((narrowest covering).map fun m => m.label.color).getD .unlabelled

def sourceBody (s : Sheet) : List Cell :=
  s.shown.zipIdx.flatMap fun (c, column) =>
    let color := s.colorAt column
    if Text.isBlank c then List.replicate (columns column c) (.painted color ' ')
    else [.painted color c]

/-- Columns of the rows below the line: as far as its marks reach, and two more. -/
def reach (s : Sheet) : Nat :=
  2 + if s.anchors.any fun a => a.mark.long then s.line.text.length
    else (s.anchors.map fun a => a.mark.span.stop - s.line.offset).foldl max 0

/-- `count` columns from the given one on, each with the terminal columns of its character. -/
def grid (column : Nat) : Nat → Text → List (Nat × Nat)
  | 0, _ => []
  | count + 1, [] => (column, 1) :: grid (column + 1) count []
  | count + 1, c :: r => (column, columns column c) :: grid (column + 1) count r

def below (s : Sheet) : List (Nat × Nat) := grid 0 s.reach s.shown

/-- A cell that stands in the first terminal column of its column, and one for the others. -/
def fill (width : Nat) (first rest : Cell) : List Cell :=
  match width with
  | 0 => []
  | n + 1 => first :: List.replicate n rest

/-- The mark whose stem runs through a column in a row. -/
def stemAt (s : Sheet) (column row : Nat) : Option Anchor :=
  (s.anchors.drop row).find? fun a => a.column == column && !s.isMargin a.mark

def underlineAt (s : Sheet) (column : Nat) : Option Mark :=
  narrowest ((s.anchors.map Anchor.mark).filter fun m =>
    !m.long && m.span.contains (s.line.offset + column))

def stemsBody (s : Sheet) (row : Nat) : List Cell :=
  s.below.flatMap fun (column, width) =>
    let underline := if row = 0 then s.underlineAt column else none
    let (first, rest) : Cell × Cell :=
      match s.stemAt column row, underline with
      | some a, some _ => (.painted a.mark.label.color '┬', .painted a.mark.label.color '─')
      | some a, none =>
        (.painted a.mark.label.color (if a.mark.long && row = 0 then '▲' else '│'),
          .painted a.mark.label.color ' ')
      | none, some m => (.painted m.label.color '─', .painted m.label.color '─')
      | none, none => (.blank, .blank)
    fill width first rest

/-- The arrow of a short mark runs right from its column; that of a long one comes from the margin,
and goes on to the right where the mark ends. -/
def isRule (a : Anchor) (column : Nat) : Bool :=
  if a.mark.long then a.drawsMessage || column ≤ a.column else a.column < column

def arrowBody (s : Sheet) (row : Nat) (a : Anchor) : List Cell :=
  let color := a.mark.label.color
  s.below.flatMap fun (column, width) =>
    let (first, rest) : Cell × Cell :=
      if column = a.column && !s.isMargin a.mark then
        (.painted color (if !a.mark.long then '╰' else if a.drawsMessage then '┴' else '╯'),
          .painted color '─')
      else if isRule a column then (.painted color '─', .painted color '─')
      else
        match s.stemAt column row with
        | some b => (.painted b.mark.label.color '│', .painted color ' ')
        | none => (.blank, .blank)
    fill width first rest

def anchorRows (s : Sheet) (row : Nat) (a : Anchor) : List Row :=
  [.stems s.number (s.rowMargin row false) (s.stemsBody row),
    .arrow s.number (s.rowMargin row true) (s.arrowBody row a)
      (if a.drawsMessage then some a.mark.label.message else none)]

def rows (s : Sheet) : List Row :=
  .source s.number false (s.sourceMargin false) s.sourceBody ::
    s.anchors.zipIdx.flatMap fun (a, row) => s.anchorRows row a

def isBare (s : Sheet) : Bool := s.anchors.isEmpty && s.margin.isNone

def isCovered (s : Sheet) : Bool := s.long.any fun m => m.span.contains s.line.offset

end Sheet

/-- The rows of consecutive lines. `quiet` tells that a row already stands for the lines left out
just before. -/
def rowsOf (quiet : Bool) : List Sheet → List Row
  | [] => []
  | s :: rest =>
    if !s.isBare then s.rows ++ rowsOf false rest
    else if quiet then rowsOf true rest
    else if s.isCovered then .source s.number true (s.sourceMargin true) [] :: rowsOf true rest
    else .skipped :: rowsOf true rest

end SqlTemplate.Excerpt
