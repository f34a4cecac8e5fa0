import Mathlib.Data.Nat.Digits.Defs
import SqlTemplate.Proofs.DrawnMessages
import SqlTemplate.Proofs.PatternNumbers
import SqlTemplate.Proofs.Rejection

/-! # Reports laid out in machine numbers

A report is laid out with unsigned 64-bit numbers, and the span of an open literal may be any two of
them. `Checked.format` lays a report out as `OpenLiteral.format?` does, but stops at a sum that is
too great, at a difference below zero, at a line that the source does not have and at a cut inside a
character. A text takes less than half of all the numbers for its bytes, so even the sum of two
positions in it is not too great, and positions behind it are only compared. Only the columns for
line numbers are counted in 32 bits, which is too little from `Checked.lineLimit` on. For sources of
fewer lines what is left to stop at is a span that ends before it starts.
-/
namespace SqlTemplate

/-- What stops a layout. -/
inductive Fault where
  | overflow
  | underflow
  /-- A line that the source does not have. -/
  | noLine
  /-- A cut inside a character or behind the end. -/
  | noCut
  /-- A label that ends before it starts. -/
  | reversed
deriving DecidableEq, Repr

/-- No text takes more bytes. -/
def Text.maxByteSize : Nat := 9223372036854775807

open Excerpt Report

namespace Checked

def add (a b : Nat) : Except Fault Nat :=
  if a + b < UInt64.size then .ok (a + b) else .error .overflow

def sub (a b : Nat) : Except Fault Nat := if b ≤ a then .ok (a - b) else .error .underflow

def lineOf (lines : List Line) (n : Nat) : Except Fault Line :=
  match lines[n]? with
  | some l => .ok l
  | none => .error .noLine

/-- The text between two bytes of a source. -/
def cut (source : Text) (start stop : Nat) : Except Fault Text :=
  match source.cut? start stop with
  | some text => .ok text
  | none => .error .noCut

/-- Lines that start at the given position and byte. Where one ends are the sums that place the
next, and its text is cut out of the source there. -/
def placeFrom (source : Text) (offset byte : Nat) : List Text → Except Fault (List Line)
  | [] => return []
  | t :: ts => do
    let next ← add offset t.length
    let nextByte ← add byte t.byteSize
    let text ← cut source byte nextByte
    return ⟨offset, text⟩ :: (← placeFrom source next nextByte ts)

def split (source : Text) : Except Fault (List Line) :=
  placeFrom source 0 0 (Line.texts source)

/-- The end of the last line. -/
def size (lines : List Line) : Nat := (lines.getLast?.map fun l => l.span.stop).getD 0

/-- A position lies on the last of the lines that start at it or in front of it. -/
def locate (lines : List Line) (position : Nat) : Except Fault (Option (Nat × Nat)) := do
  if size lines < position then return none
  let number := (lines.countP fun l => l.offset ≤ position) - 1
  match lines[number]? with
  | none => return none
  | some l => return some (number, ← sub position l.offset)

/-- The lines of the first and the last character of a label. -/
def ends (lines : List Line) (l : Label) : Except Fault (Option (Nat × Nat)) := do
  match ← locate lines l.span.start with
  | none => return none
  | some (first, _) =>
    if l.span.start < l.span.stop then
      let last ← sub l.span.stop 1
      return (← locate lines last).map fun p => (first, p.1)
    else return some (first, first)

def mark (lines : List Line) (l : Label) (i : Nat) : Except Fault (Option Mark) := do
  return (← ends lines l).map fun q => ⟨i, l, q.1 != q.2⟩

def marks (lines : List Line) (labels : List Label) : Except Fault (List Mark) := do
  let placed ← labels.zipIdx.mapM fun p => mark lines p.1 p.2
  return placed.filterMap id

/-- The lines that an excerpt shows. The last character of a span is found without a check, as no
span ends before zero. -/
def lineRange (lines : List Line) (s : Span) : Except Fault Span := do
  let first ← locate lines s.start
  match ← locate lines (max (s.stop - 1) s.start) with
  | some (last, _) => return ⟨(first.map Prod.fst).getD 0, ← add last 1⟩
  | none => return ⟨(first.map Prod.fst).getD 0, lines.length⟩

/-- Where a long mark begins or ends on the line. -/
def ofLong (line : Line) (m : Mark) : Except Fault (Option Anchor) := do
  if line.span.contains m.span.start then
    return some ⟨← sub m.span.start line.offset, m, false⟩
  else if line.span.contains m.label.last then
    return some ⟨← sub m.label.last line.offset, m, true⟩
  else return none

/-- The middle of a short mark that lies within the line. -/
def ofShort (line : Line) (m : Mark) : Except Fault (Option Anchor) := do
  if !m.long && line.span.start ≤ m.span.start && m.span.stop ≤ line.span.stop then
    let ends ← add m.span.start m.span.stop
    return some ⟨← sub (max (ends / 2) m.span.start) line.offset, m, true⟩
  else return none

/-- A line is drawn once all marks have got their columns on it. -/
def sheet (lines : List Line) (marks long : List Mark) (n : Nat) : Except Fault Sheet := do
  let line ← lineOf lines n
  let _ ← long.mapM (ofLong line)
  let _ ← marks.mapM (ofShort line)
  return Sheet.make marks long n line

def reach (s : Sheet) : Except Fault Nat :=
  add 2 (if s.anchors.any fun a => a.mark.long then s.line.text.length
    else (s.anchors.map fun a => a.mark.span.stop - s.line.offset).foldl max 0)

/-- The positions of all columns that are shown and of all columns drawn below them, where the marks
over a column are looked for. -/
def positions (s : Sheet) : Except Fault (List Nat) := do
  let shown ← (List.range s.shown.length).mapM (add s.line.offset)
  let below ← (List.range (← reach s)).mapM (add s.line.offset)
  return shown ++ below

/-- A product of 32-bit numbers. -/
def mul (a b : Nat) : Except Fault Nat :=
  if a * b < UInt32.size then .ok (a * b) else .error .overflow

def countPowers (n : Nat) : Nat → Nat → Except Fault Nat
  | 0, _ => return 0
  | steps + 1, p => do
    if n / p = 0 then return 0
    return (← countPowers n steps (← mul 10 p)) + 1

/-- The columns for line numbers up to the given one, which is taken in 32 bits. -/
def numberColumns (number : Nat) : Except Fault Nat := do
  return (← countPowers (number % UInt32.size) 31 10) + 1

/-- The number that is the first to need a power of ten above 32 bits. -/
def lineLimit : Nat := 1000000000

def rows (lines : List Line) (marks : List Mark) (range : Span) : Except Fault (List Row) := do
  let long := Mark.longest marks
  let sheets ← ((lines.zipIdx.drop range.start).take range.size).mapM fun p =>
    sheet lines marks long p.2
  let _ ← sheets.mapM positions
  return rowsOf false sheets

/-- The number of a line is set to the right of its column. -/
def renderRow (width : Nat) (row : Row) : Except Fault Text := do
  match row with
  | .source n false _ _ =>
    let number ← add n 1
    let _ ← sub width (Text.decimal number).length
    return Report.renderRow width row
  | _ => return Report.renderRow width row

def place (lines : List Line) (position : Nat) : Except Fault Text := do
  match ← locate lines position with
  | some (line, column) =>
    let number ← add line 1
    return Text.decimal number ++ ':' :: Text.decimal (← add column 1)
  | none => return ['?', ':', '?']

/-- The advice stands beside the margin of the first line. -/
def helpRows (width : Nat) (lines : List Line) (marks : List Mark) (help : Text) :
    Except Fault Text := do
  let _ ← lineOf lines 0
  return Report.helpRows width lines marks help

def render (r : Report) (source filename : Text) : Except Fault Text := do
  let lines ← split source
  let marks ← marks lines r.labels
  match marks with
  | [] => return r.heading
  | first :: rest =>
    let range ← lineRange lines (hull first rest)
    let width ← numberColumns range.stop
    let title := filename ++ ':' :: (← place lines r.position)
    let texts ← (← rows lines marks range).mapM (renderRow width)
    let help ← r.help.toList.mapM (helpRows width lines marks)
    return r.heading ++ titled width title ++ texts.flatten ++ help.flatten ++ closing width

/-- The text of the report on an open literal. -/
def format (e : OpenLiteral) (source filename : Text) : Except Fault Text :=
  if e.span.stop < e.span.start then .error .reversed else render e.report source filename

section Steps

variable {α β : Type}

@[simp] theorem ok_bind (a : α) (f : α → Except Fault β) : (Except.ok a >>= f) = f a := rfl

@[simp] theorem pure_eq_ok (a : α) : (pure a : Except Fault α) = .ok a := rfl

theorem add_eq_ok {a b : Nat} (h : a + b < UInt64.size) : add a b = .ok (a + b) := if_pos h

theorem sub_eq_ok {a b : Nat} (h : b ≤ a) : sub a b = .ok (a - b) := if_pos h

theorem mul_eq_ok {a b : Nat} (h : a * b < UInt32.size) : mul a b = .ok (a * b) := if_pos h

example : add 18446744073709551615 1 = .error .overflow := by decide

theorem lineOf_eq_ok {lines : List Line} {n : Nat} {l : Line} (h : lines[n]? = some l) :
    lineOf lines n = .ok l := by
  rw [lineOf, h]

theorem mapM_eq_ok {f : α → Except Fault β} {g : α → β} {as : List α}
    (h : ∀ a ∈ as, f a = .ok (g a)) : as.mapM f = .ok (as.map g) := by
  induction as with
  | nil => rfl
  | cons a as ih =>
    obtain ⟨ha, has⟩ := List.forall_mem_cons.mp h
    rw [List.mapM_cons, ha, ih has]
    rfl

end Steps

section Columns

/-- Ten times a power of ten below the limit is the limit at most, which is in range. -/
theorem ten_mul_pow_lt {k : Nat} (h : 10 ^ k < lineLimit) : 10 * 10 ^ k < UInt32.size := by
  have hk : k < 9 := (Nat.pow_lt_pow_iff_right (by decide)).mp h
  have hpow : 10 ^ (k + 1) ≤ lineLimit := Nat.pow_le_pow_right (by decide) hk
  rw [Nat.pow_succ'] at hpow
  exact Nat.lt_of_le_of_lt hpow (by decide)

theorem ten_mul_pow_lt_of_div_ne_zero {n k : Nat} (h : n < lineLimit) (hdiv : n / 10 ^ k ≠ 0) :
    10 * 10 ^ k < UInt32.size :=
  ten_mul_pow_lt (Nat.lt_of_le_of_lt (Nat.div_ne_zero_iff.mp hdiv).2 h)

/-- Below the limit no product is too great. -/
theorem countPowers_eq_ok {n : Nat} (h : n < lineLimit) (steps k : Nat) :
    countPowers n steps (10 ^ k) = .ok (Report.countPowers n steps (10 ^ k)) := by
  induction steps generalizing k with
  | zero => rfl
  | succ steps ih =>
    rw [countPowers, Report.countPowers]
    split
    · rfl
    · next hdiv =>
      have hnext := ten_mul_pow_lt_of_div_ne_zero h hdiv
      rw [mul_eq_ok hnext, ok_bind, Nat.mod_eq_of_lt hnext, ← Nat.pow_succ', ih]
      rfl

/-- As many powers are counted as it takes to get above the number. -/
theorem lt_pow_add_countPowers {n : Nat} (h : n < lineLimit) (steps k : Nat)
    (hn : n < 10 ^ (k + steps)) : n < 10 ^ (k + Report.countPowers n steps (10 ^ k)) := by
  induction steps generalizing k with
  | zero => exact hn
  | succ steps ih =>
    rw [Report.countPowers]
    split
    · next hdiv => exact Nat.lt_of_div_eq_zero (Nat.pow_pos (by decide)) hdiv
    · next hdiv =>
      have hnext := ten_mul_pow_lt_of_div_ne_zero h hdiv
      rw [Nat.mod_eq_of_lt hnext, ← Nat.pow_succ', Nat.add_comm _ 1, ← Nat.add_assoc]
      exact ih (k + 1) (by rwa [Nat.add_assoc, Nat.add_comm 1])

/-- From the limit on the count comes to a product that is too great. -/
theorem countPowers_eq_overflow {n : Nat} (h : lineLimit ≤ n) (steps k : Nat) (hk : k < 10)
    (hsteps : 10 ≤ k + steps) : countPowers n steps (10 ^ k) = .error .overflow := by
  induction steps generalizing k with
  | zero => omega
  | succ steps ih =>
    have hpow : 10 ^ k ≤ lineLimit := Nat.pow_le_pow_right (by decide) (Nat.le_of_lt_succ hk)
    have hdiv : n / 10 ^ k ≠ 0 :=
      Nat.div_ne_zero_iff.mpr ⟨(Nat.pow_pos (by decide)).ne', Nat.le_trans hpow h⟩
    rw [countPowers, if_neg hdiv]
    rcases Nat.lt_or_eq_of_le hpow with hlt | heq
    · have hk' : k < 9 := (Nat.pow_lt_pow_iff_right (by decide)).mp hlt
      rw [mul_eq_ok (ten_mul_pow_lt hlt), ok_bind, ← Nat.pow_succ', ih _ (by omega) (by omega)]
      rfl
    · rw [heq]
      rfl

theorem mod_size_of_lt {n : Nat} (h : n < lineLimit) : n % UInt32.size = n :=
  Nat.mod_eq_of_lt (Nat.lt_trans h (by decide))

theorem numberColumns_eq_ok {n : Nat} (h : n < lineLimit) :
    numberColumns n = .ok (Report.numberColumns n) := by
  have hcount := countPowers_eq_ok h 31 1
  rw [Nat.pow_one] at hcount
  rw [numberColumns, Report.numberColumns, mod_size_of_lt h, hcount]
  rfl

theorem numberColumns_eq_overflow {n : Nat} (h : lineLimit ≤ n) (hn : n < UInt32.size) :
    numberColumns n = .error .overflow := by
  have hcount := countPowers_eq_overflow h 31 1 (by decide) (by decide)
  rw [Nat.pow_one] at hcount
  rw [numberColumns, Nat.mod_eq_of_lt hn, hcount]
  rfl

/-- The columns are enough for all line numbers up to the given one. -/
theorem length_decimal_le {m n : Nat} (hm : m ≤ n) (h : n < lineLimit) :
    (Text.decimal m).length ≤ Report.numberColumns n := by
  have hn := lt_pow_add_countPowers h 31 1 (Nat.lt_trans h (by decide))
  have hpos : 0 < Report.numberColumns n := Nat.succ_pos _
  rw [Nat.pow_one, Nat.add_comm] at hn
  refine (Nat.length_toDigits_le_iff (by decide) hpos).mpr (Nat.lt_of_le_of_lt hm ?_)
  rwa [Report.numberColumns, mod_size_of_lt h]

end Columns

end Checked

namespace Excerpt

namespace Line

theorem length_placeFrom (offset : Nat) (ts : List Text) :
    (placeFrom offset ts).length = ts.length := by
  induction ts generalizing offset with
  | nil => rfl
  | cons t ts ih => rw [placeFrom, List.length_cons, ih, List.length_cons]

theorem length_split_le (source : Text) : (split source).length ≤ source.length := by
  rw [split, length_placeFrom]
  induction source with
  | nil => exact Nat.le_refl 0
  | cons c r ih =>
    rw [texts_cons, List.length_cons]
    split
    · exact Nat.succ_le_succ ih
    · cases htexts : texts r with
      | nil => simp [consText]
      | cons w ws =>
        rw [htexts] at ih
        exact Nat.le_succ_of_le ih

end Line

theorem bounds_of_locate? {source : Text} {position line column : Nat}
    (h : locate? (Line.split source) position = some (line, column)) :
    line < (Line.split source).length ∧ column ≤ source.length := by
  by_cases hend : source.length < position
  · rw [locate?_split_eq_none hend] at h
    cases h
  · rcases eq_or_ne source [] with rfl | hne
    · cases h
    · obtain ⟨above, l, below, hon, -⟩ := Line.exists_liesOn_split hne (Nat.le_of_not_lt hend)
      rw [locate?, hon.locateFrom_eq, Nat.zero_add] at h
      cases h
      rw [hon.lines_eq, List.length_append, List.length_cons]
      omega

/-- A mark is made for one of the labels, on lines that there are. -/
theorem Mark.of_mem_ofLabels {lines : List Line} {labels : List Label} {m : Mark}
    (h : m ∈ ofLabels lines labels) : m.label ∈ labels ∧ lines ≠ [] := by
  obtain ⟨p, hp, hmark⟩ := List.mem_filterMap.mp h
  obtain ⟨q, hq, rfl⟩ := Option.map_eq_some_iff.mp hmark
  refine ⟨List.fst_mem_of_mem_zipIdx hp, ?_⟩
  rintro rfl
  cases hq

theorem Anchor.mark_eq_of_ofLong? {line : Line} {m : Mark} {a : Anchor}
    (h : ofLong? line m = some a) : a.mark = m := by
  rw [ofLong?] at h
  split at h
  · cases h
    rfl
  · split at h <;> cases h
    rfl

namespace Sheet

theorem stop_le_of_mem_anchors {marks : List Mark} {n : Nat} {l : Line} {a : Anchor}
    (h : a ∈ (make marks (Mark.longest marks) n l).anchors) (hshort : a.mark.long = false) :
    a.mark.span.stop ≤ l.span.stop := by
  rw [make, Anchor.list, List.mem_mergeSort, List.mem_append] at h
  rcases h with hlong | hmem
  · obtain ⟨m, hm, ha⟩ := List.mem_filterMap.mp (List.mem_of_mem_filter hlong)
    rw [Mark.longest, List.mem_mergeSort, List.mem_filter, ← Anchor.mark_eq_of_ofLong? ha,
      hshort] at hm
    exact absurd hm.2 Bool.false_ne_true
  · obtain ⟨m, -, ha⟩ := List.mem_filterMap.mp hmem
    rw [Anchor.ofShort?] at ha
    split at ha
    · next hwithin =>
      cases ha
      exact of_decide_eq_true (Bool.and_eq_true_iff.mp hwithin).2
    · cases ha

/-- Below a line there are at most two columns more than on it. -/
theorem reach_make_le (marks : List Mark) (n : Nat) (l : Line) :
    (make marks (Mark.longest marks) n l).reach ≤ 2 + l.text.length := by
  have hmax (as : List Nat) (h : ∀ a ∈ as, a ≤ l.text.length) (b : Nat) (hb : b ≤ l.text.length) :
      as.foldl max b ≤ l.text.length := by
    induction as generalizing b with
    | nil => exact hb
    | cons a as ih =>
      obtain ⟨ha, has⟩ := List.forall_mem_cons.mp h
      exact ih has _ (Nat.max_le.mpr ⟨hb, ha⟩)
  rw [reach]
  refine Nat.add_le_add_left ?_ 2
  split
  · exact Nat.le_refl _
  · next hshort =>
    refine hmax _ (List.forall_mem_map.mpr fun a ha => ?_) 0 (Nat.zero_le _)
    have hlong : a.mark.long = false := by
      by_contra hne
      exact hshort (List.any_eq_true.mpr ⟨a, ha, by simpa using hne⟩)
    have hstop := stop_le_of_mem_anchors ha hlong
    rw [Line.stop_span] at hstop
    exact Nat.sub_le_of_le_add (by rwa [Nat.add_comm])

theorem length_shown_le (s : Sheet) : s.shown.length ≤ s.line.text.length := by
  have htrimmed := (List.dropWhile_sublist (p := Text.isBlank) (l := s.line.text.reverse)).length_le
  rw [List.length_reverse] at htrimmed
  rwa [shown, Text.trimEnd, List.length_reverse]

end Sheet

/-- Rows of the source are those of the sheets' lines. -/
theorem number_mem_of_mem_rowsOf {quiet : Bool} {sheets : List Sheet} {n : Nat} {elided : Bool}
    {margin body : List Cell} (h : .source n elided margin body ∈ rowsOf quiet sheets) :
    n ∈ sheets.map Sheet.number := by
  rcases of_mem_rowsOf h with heq | ⟨s, hs, hown | heq⟩
  · cases heq
  · rcases List.mem_cons.mp hown with heq | hbelow
    · cases heq
      exact List.mem_map_of_mem hs
    · obtain ⟨p, -, hrow⟩ := List.mem_flatMap.mp hbelow
      simp [Sheet.anchorRows] at hrow
  · cases heq
    exact List.mem_map_of_mem hs

end Excerpt

namespace Checked

section Lines

theorem cut_eq_ok (front t rest : Text) :
    cut (front ++ t ++ rest) front.byteSize (front.byteSize + t.byteSize) = .ok t := by
  have hslice : Text.IsSlice (front ++ t ++ rest)
      ⟨front.byteSize, front.byteSize + t.byteSize⟩ t := ⟨front, rest, rfl, rfl, rfl⟩
  rw [cut, Text.cut?_eq_some_iff.mpr hslice]

theorem placeFrom_eq_ok {source : Text} (hbytes : source.byteSize < UInt64.size) {front : Text}
    {offset : Nat} {ts : List Text} (hsource : source = front ++ ts.flatten)
    (hlength : offset + ts.flatten.length < UInt64.size) :
    placeFrom source offset front.byteSize ts = .ok (Line.placeFrom offset ts) := by
  induction ts generalizing front offset with
  | nil => rfl
  | cons t ts ih =>
    rw [List.flatten_cons] at hsource hlength
    rw [← List.append_assoc] at hsource
    have hsize := congrArg Text.byteSize hsource
    rw [List.length_append] at hlength
    rw [Text.byteSize_append, Text.byteSize_append] at hsize
    have hnext := add_eq_ok (a := offset) (b := t.length) (by omega)
    have hbyte := add_eq_ok (a := front.byteSize) (b := t.byteSize) (by omega)
    have htext := cut_eq_ok front t ts.flatten
    have hbelow : placeFrom source (offset + t.length) (front ++ t).byteSize ts =
        .ok (Line.placeFrom (offset + t.length) ts) := ih hsource (by omega)
    rw [← hsource] at htext
    rw [Text.byteSize_append] at hbelow
    simp [placeFrom, Line.placeFrom, hnext, hbyte, htext, hbelow]

theorem size_placeFrom (offset : Nat) {ts : List Text} (h : ts ≠ []) :
    size (Line.placeFrom offset ts) = offset + ts.flatten.length := by
  induction ts generalizing offset with
  | nil => exact absurd rfl h
  | cons t ts ih =>
    cases ts with
    | nil => simp [size, Line.placeFrom, Line.span]
    | cons u ts =>
      have hbelow : Line.placeFrom (offset + t.length) (u :: ts) ≠ [] := by simp [Line.placeFrom]
      have hlast := ih (offset + t.length) (List.cons_ne_nil u ts)
      rw [Line.placeFrom, size, List.getLast?_cons_of_ne_nil hbelow, ← size, hlast]
      simp [Nat.add_assoc]

theorem size_split (source : Text) : size (Line.split source) = source.length := by
  rcases eq_or_ne source [] with rfl | hne
  · rfl
  · rw [Line.split, size_placeFrom 0 (by rwa [Ne, Line.texts_eq_nil_iff]), Line.flatten_texts,
      Nat.zero_add]

/-- The line found by its offset is the one found by going through the lines. -/
theorem locate_eq_ok (source : Text) (position : Nat) :
    locate (Line.split source) position = .ok (locate? (Line.split source) position) := by
  rw [locate, size_split]
  by_cases hend : source.length < position
  · rw [if_pos hend, locate?_split_eq_none hend]
    rfl
  · rw [if_neg hend]
    rcases eq_or_ne source [] with rfl | hne
    · obtain rfl : position = 0 := by simpa using hend
      rfl
    · obtain ⟨above, l, below, hon, -⟩ := Line.exists_liesOn_split hne (Nat.le_of_not_lt hend)
      have habove : above.countP (fun l => l.offset ≤ position) = above.length :=
        List.countP_eq_length.mpr fun k hk =>
          decide_eq_true (Nat.le_trans (Nat.le_add_right _ _) (hon.behind k hk))
      have hbelow : below.countP (fun l => l.offset ≤ position) = 0 :=
        List.countP_eq_zero.mpr fun k hk => by simpa using hon.before k hk
      have hcount : (Line.split source).countP (fun l => l.offset ≤ position) =
          above.length + 1 := by
        rw [hon.lines_eq, List.countP_append, List.countP_cons_of_pos (by simpa using hon.start_le),
          habove, hbelow]
      have hline : (Line.split source)[above.length]? = some l := by simp [hon.lines_eq]
      rw [locate?, hon.locateFrom_eq, Nat.zero_add]
      simp [hcount, hline, sub_eq_ok hon.start_le]

theorem ends_eq_ok (source : Text) (l : Label) :
    ends (Line.split source) l = .ok (l.lines? (Line.split source)) := by
  rw [ends, Label.lines?, locate_eq_ok]
  cases hfirst : locate? (Line.split source) l.span.start with
  | none => rfl
  | some first =>
    by_cases hlt : l.span.start < l.span.stop
    · have hlast := sub_eq_ok (Nat.one_le_of_lt hlt)
      cases hfound : locate? (Line.split source) (l.span.stop - 1) <;>
        simp [hlt, hlast, locate_eq_ok, hfound]
    · simp [hlt]

theorem marks_eq_ok (source : Text) (labels : List Label) :
    marks (Line.split source) labels = .ok (Mark.ofLabels (Line.split source) labels) := by
  have hmark (p : Label × Nat) : mark (Line.split source) p.1 p.2 =
      .ok ((p.1.lines? (Line.split source)).map fun q => ⟨p.2, p.1, q.1 != q.2⟩) := by
    simp [mark, ends_eq_ok]
  rw [marks, mapM_eq_ok fun p _ => hmark p, Mark.ofLabels, ok_bind, pure_eq_ok, List.filterMap_map]
  rfl

theorem ofLong_eq_ok (l : Line) (m : Mark) : ofLong l m = .ok (Anchor.ofLong? l m) := by
  rw [ofLong, Anchor.ofLong?]
  split
  · next hstart => simp [sub_eq_ok ((l.contains_span_iff _).mp hstart).1]
  · split
    · next hlast => simp [sub_eq_ok ((l.contains_span_iff _).mp hlast).1]
    · rfl

theorem helpRows_eq_ok (width : Nat) {lines : List Line} (hlines : lines ≠ []) (marks : List Mark)
    (help : Text) :
    helpRows width lines marks help = .ok (Report.helpRows width lines marks help) := by
  obtain ⟨l, ls, rfl⟩ := List.exists_cons_of_ne_nil hlines
  rfl

theorem shownLines_of_marks_eq_nil {r : Report} {source : Text} (h : r.marks source = []) :
    r.shownLines source = ⟨0, 0⟩ := by
  rw [Report.shownLines, h]

/-- The lines shown are lines of the source. -/
theorem stop_shownLines_le (r : Report) (source : Text) :
    (r.shownLines source).stop ≤ (Line.split source).length := by
  rw [Report.shownLines]
  split
  · exact Nat.zero_le _
  · next first rest _ =>
    rw [Report.lineRange]
    cases hlast : locate? (Line.split source)
        (max ((hull first rest).stop - 1) (hull first rest).start) with
    | none => exact Nat.le_refl _
    | some p => exact (bounds_of_locate? hlast).1

end Lines

section Bounded

variable {source : Text} (hsource : source.byteSize ≤ Text.maxByteSize)
include hsource

theorem byteSize_lt : source.byteSize < UInt64.size :=
  Nat.lt_of_le_of_lt hsource (by decide)

/-- Room for the sum of two positions, and for two columns behind the source. -/
theorem length_bounds :
    2 * source.length < UInt64.size ∧ source.length + 2 < UInt64.size := by
  have hlength := Text.length_le_byteSize source
  rw [Text.maxByteSize] at hsource
  rw [UInt64.size]
  omega

theorem split_eq_ok : split source = .ok (Line.split source) := by
  have hlength := length_bounds hsource
  have hbytes := byteSize_lt hsource
  have htexts : source = [] ++ (Line.texts source).flatten := (Line.flatten_texts source).symm
  exact placeFrom_eq_ok hbytes htexts (by rw [Line.flatten_texts]; omega)

theorem lineRange_eq_ok (s : Span) :
    lineRange (Line.split source) s = .ok (Report.lineRange (Line.split source) s) := by
  rw [lineRange, Report.lineRange, locate_eq_ok, locate_eq_ok]
  cases hlast : locate? (Line.split source) (max (s.stop - 1) s.start) with
  | none => rfl
  | some p =>
    have hbound := (bounds_of_locate? hlast).1
    have hlines := Line.length_split_le source
    have hlength := length_bounds hsource
    have hstop := add_eq_ok (a := p.1) (b := 1) (by omega)
    simp [hstop]

theorem place_eq_ok (position : Nat) :
    place (Line.split source) position = .ok (Report.place (Line.split source) position) := by
  rw [place, Report.place, locate_eq_ok]
  cases hfound : locate? (Line.split source) position with
  | none => rfl
  | some p =>
    have hbounds := bounds_of_locate? hfound
    have hlines := Line.length_split_le source
    have hlength := length_bounds hsource
    have hline := add_eq_ok (a := p.1) (b := 1) (by omega)
    have hcolumn := add_eq_ok (a := p.2) (b := 1) (by omega)
    simp [hline, hcolumn]

theorem ofShort_eq_ok {l : Line} (hl : l ∈ Line.split source) {m : Mark}
    (hm : m.span.start ≤ m.span.stop) : ofShort l m = .ok (Anchor.ofShort? l m) := by
  rw [ofShort, Anchor.ofShort?]
  split
  · next hwithin =>
    rw [Bool.and_eq_true, Bool.and_eq_true, decide_eq_true_eq, decide_eq_true_eq] at hwithin
    obtain ⟨⟨-, hstart⟩, hstop⟩ := hwithin
    have hbounds := Line.bounds_of_mem_split hl
    have hlength := length_bounds hsource
    have hsum := add_eq_ok (a := m.span.start) (b := m.span.stop) (by omega)
    have hoffset : l.offset ≤ max ((m.span.start + m.span.stop) / 2) m.span.start :=
      Nat.le_trans hstart (Nat.le_max_right _ _)
    simp [hsum, sub_eq_ok hoffset]
  · rfl

/-- The positions of the columns of a sheet, first those shown and then those below. -/
def columnPositions (s : Sheet) : List Nat :=
  ((List.range s.shown.length).map fun column => s.line.offset + column) ++
    (List.range s.reach).map fun column => s.line.offset + column

theorem positions_eq_ok {marks : List Mark} {n : Nat} {l : Line}
    (hl : (Line.split source)[n]? = some l) :
    positions (Sheet.make marks (Mark.longest marks) n l) =
      .ok (columnPositions (Sheet.make marks (Mark.longest marks) n l)) := by
  have hbounds := Line.bounds_of_mem_split (List.mem_of_getElem? hl)
  have hlength := length_bounds hsource
  have hreach := Sheet.reach_make_le marks n l
  rw [Line.stop_span] at hbounds
  have hcolumns {k : Nat} (hk : k ≤ 2 + l.text.length) : (List.range k).mapM (add l.offset) =
      .ok ((List.range k).map fun column => l.offset + column) :=
    mapM_eq_ok fun column hcolumn => add_eq_ok (by
      have hlt := List.mem_range.mp hcolumn
      omega)
  have hshown := hcolumns (Nat.le_add_left_of_le
    (Sheet.length_shown_le (Sheet.make marks (Mark.longest marks) n l)))
  have hcount : Checked.reach (Sheet.make marks (Mark.longest marks) n l) =
      .ok (Sheet.make marks (Mark.longest marks) n l).reach :=
    add_eq_ok (by
      rw [Sheet.reach] at hreach
      omega)
  have hbelow := hcolumns hreach
  rw [positions, hcount]
  change (List.range _).mapM (add l.offset) >>= _ = _
  rw [hshown, ok_bind, ok_bind]
  change (List.range _).mapM (add l.offset) >>= _ = _
  rw [hbelow]
  rfl

theorem renderRow_eq_ok {marks : List Mark} {range : Span} (hrange : range.stop < lineLimit)
    {row : Row} (h : row ∈ Report.rows (Line.split source) marks range) :
    renderRow (Report.numberColumns range.stop) row =
      .ok (Report.renderRow (Report.numberColumns range.stop) row) := by
  cases row with
  | source n elided margin body =>
    cases elided with
    | true => rfl
    | false =>
      have hnumber := number_mem_of_mem_rowsOf h
      rw [List.map_map, show Sheet.number ∘ _ = Prod.snd from rfl, map_snd_shown, List.mem_range'_1,
        Span.size] at hnumber
      have hlines := Line.length_split_le source
      have hlength := length_bounds hsource
      have hadd := add_eq_ok (a := n) (b := 1) (by omega)
      have hwidth := sub_eq_ok (length_decimal_le (m := n + 1) (n := range.stop) (by omega) hrange)
      simp [renderRow, hadd, hwidth]
  | skipped | stems | arrow => rfl

section Marks

variable {marks : List Mark} (hmarks : ∀ m ∈ marks, m.span.start ≤ m.span.stop)
include hmarks

theorem sheet_eq_ok {n : Nat} {l : Line} (hl : (Line.split source)[n]? = some l) :
    sheet (Line.split source) marks (Mark.longest marks) n =
      .ok (Sheet.make marks (Mark.longest marks) n l) := by
  have hlong : (Mark.longest marks).mapM (ofLong l) = .ok _ :=
    mapM_eq_ok fun m _ => ofLong_eq_ok l m
  have hshort : marks.mapM (ofShort l) = .ok _ :=
    mapM_eq_ok fun m hm => ofShort_eq_ok hsource (List.mem_of_getElem? hl) (hmarks m hm)
  rw [sheet, lineOf_eq_ok hl, ok_bind, hlong, ok_bind, hshort]
  rfl

theorem rows_eq_ok (range : Span) :
    rows (Line.split source) marks range = .ok (Report.rows (Line.split source) marks range) := by
  have hsheets : (((Line.split source).zipIdx.drop range.start).take range.size).mapM
      (fun p => sheet (Line.split source) marks (Mark.longest marks) p.2) = .ok _ :=
    mapM_eq_ok fun p hp => sheet_eq_ok hsource hmarks (getElem?_of_mem_shown hp)
  rw [rows, hsheets, ok_bind, mapM_eq_ok (g := columnPositions) (List.forall_mem_map.mpr
    fun p hp => positions_eq_ok hsource (getElem?_of_mem_shown hp))]
  rfl

end Marks

theorem render_eq_ok {r : Report} (hlabels : ∀ l ∈ r.labels, l.span.start ≤ l.span.stop)
    (hshown : (r.shownLines source).stop < lineLimit) (filename : Text) :
    render r source filename = .ok (r.render source filename) := by
  have hmarks : ∀ m ∈ r.marks source, m.span.start ≤ m.span.stop :=
    fun m hm => hlabels _ (Mark.of_mem_ofLabels hm).1
  rw [render, split_eq_ok hsource, ok_bind, marks_eq_ok, ok_bind, ← Report.marks]
  cases hcase : r.marks source with
  | nil => rw [Report.render_of_marks_eq_nil hcase, pure_eq_ok]
  | cons first rest =>
    have hne : r.marks source ≠ [] := by simp [hcase]
    have hlines : Line.split source ≠ [] :=
      (Mark.of_mem_ofLabels (List.mem_of_mem_head? (congrArg List.head? hcase))).2
    have hrange : Report.lineRange (Line.split source) (hull first rest) = r.shownLines source := by
      rw [Report.shownLines, hcase]
    rw [hcase] at hmarks
    rw [Report.render_of_marks_ne_nil hne, Report.framed, Report.excerpt, Report.numberWidth, hcase]
    dsimp only
    rw [lineRange_eq_ok hsource, ok_bind, hrange, numberColumns_eq_ok hshown, ok_bind,
      place_eq_ok hsource, ok_bind, rows_eq_ok hsource hmarks, ok_bind,
      mapM_eq_ok fun row => renderRow_eq_ok hsource hshown, ok_bind,
      mapM_eq_ok fun help _ => helpRows_eq_ok _ hlines _ help, ok_bind]
    cases r.help <;> simp [List.flatMap]

/-- A report that shows lines up to the limit or beyond is not laid out, as no width is found for
their numbers. -/
theorem render_eq_overflow {r : Report} (hlimit : lineLimit ≤ (r.shownLines source).stop)
    (hsize : (r.shownLines source).stop < UInt32.size) (filename : Text) :
    render r source filename = .error .overflow := by
  rw [render, split_eq_ok hsource, ok_bind, marks_eq_ok, ok_bind, ← Report.marks]
  cases hcase : r.marks source with
  | nil =>
    rw [shownLines_of_marks_eq_nil hcase] at hlimit
    exact absurd hlimit (by decide)
  | cons first rest =>
    have hrange : Report.lineRange (Line.split source) (hull first rest) = r.shownLines source := by
      rw [Report.shownLines, hcase]
    dsimp only
    rw [lineRange_eq_ok hsource, ok_bind, hrange, numberColumns_eq_overflow hlimit hsize]
    rfl

theorem format_eq_ok {e : OpenLiteral} (h : e.span.start ≤ e.span.stop)
    (hshown : (e.report.shownLines source).stop < lineLimit) (filename : Text) :
    format e source filename = .ok (e.report.render source filename) := by
  have hlabels : ∀ l ∈ e.report.labels, l.span.start ≤ l.span.stop := by
    rwa [OpenLiteral.labels_report, List.forall_mem_singleton]
  rw [format, if_neg (Nat.not_lt.mpr h), render_eq_ok hsource hlabels hshown]

theorem exists_format_eq_error_iff {e : OpenLiteral}
    (hshown : (e.report.shownLines source).stop < lineLimit) (filename : Text) :
    (∃ fault, format e source filename = .error fault) ↔ e.span.stop < e.span.start := by
  constructor
  · rintro ⟨fault, hfault⟩
    by_contra hle
    rw [format_eq_ok hsource (Nat.not_lt.mp hle) hshown] at hfault
    cases hfault
  · exact fun h => ⟨.reversed, if_pos h⟩

end Bounded

end Checked

namespace OpenLiteral

theorem format?_eq_none_iff {e : OpenLiteral} (source filename : Text) :
    e.format? source filename = none ↔ e.span.stop < e.span.start := by
  rw [format?]
  split <;> simp [*]

theorem format?_of_start_le_stop {e : OpenLiteral} (h : e.span.start ≤ e.span.stop)
    (source filename : Text) :
    e.format? source filename = some (e.report.render source filename) :=
  if_neg (Nat.not_lt.mpr h)

theorem marks_report_of_length_lt {e : OpenLiteral} {source : Text}
    (h : source.length < e.span.start) : e.report.marks source = [] := by
  obtain ⟨message, hlabels⟩ : ∃ message, e.report.labels = [⟨e.span, message, .red⟩] :=
    ⟨_, e.labels_report⟩
  have hlines : Label.lines? (Line.split source) ⟨e.span, message, .red⟩ = none := by
    rw [Label.lines?, locate?_split_eq_none h]
    rfl
  rw [Report.marks, hlabels, Mark.ofLabels]
  simp [hlines]

/-- A report that shows a line whose number is the limit or more is not laid out, though the span be
in order. -/
theorem layout_stops_at_limit {e : OpenLiteral} (h : e.span.start ≤ e.span.stop) {source : Text}
    (hsource : source.byteSize ≤ Text.maxByteSize)
    (hlimit : Checked.lineLimit ≤ (e.report.shownLines source).stop)
    (hsize : (e.report.shownLines source).stop < UInt32.size) (filename : Text) :
    Checked.format e source filename = .error .overflow := by
  rw [Checked.format, if_neg (Nat.not_lt.mpr h), Checked.render_eq_overflow hsource hlimit hsize]

end OpenLiteral

end SqlTemplate
