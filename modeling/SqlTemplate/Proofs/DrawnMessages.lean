import Mathlib.Data.List.Perm.Basic
import SqlTemplate.Proofs.LineNumbers
import SqlTemplate.Report

/-! # The messages of an excerpt

A short mark has its message below its only line and a long one below its last. Sheets give up none
of the messages of their marks, rows none of their sheets', and the lines shown are enough for all
marks; so an excerpt has the messages of just the labels that were given.
-/
namespace SqlTemplate

namespace Excerpt

/-- Sorting by a key under some distinct keys keeps each item that has one of them. -/
theorem flatMap_filter_perm {α κ : Type*} [DecidableEq κ] (key : α → κ) {keys : List κ}
    (hkeys : keys.Nodup) (items : List α) (hitems : ∀ x ∈ items, key x ∈ keys) :
    (keys.flatMap fun k => items.filter fun x => key x = k).Perm items := by
  induction keys generalizing items with
  | nil =>
    rw [List.eq_nil_iff_forall_not_mem.mpr fun x hx => List.not_mem_nil (hitems x hx)]
    rfl
  | cons k keys ih =>
    obtain ⟨hk, hkeys⟩ := List.nodup_cons.mp hkeys
    have hrest : (keys.flatMap fun j => items.filter fun x => key x = j) =
        keys.flatMap fun j =>
          (items.filter fun x => !decide (key x = k)).filter fun x => key x = j := by
      refine List.flatMap_congr fun j hj => ?_
      have hne : j ≠ k := fun heq => hk (heq ▸ hj)
      rw [List.filter_filter]
      refine List.filter_congr fun x _ => ?_
      by_cases hx : key x = j <;> simp [hx, hne]
    rw [List.flatMap_cons, hrest]
    have hperm := ih hkeys (items.filter fun x => !decide (key x = k)) fun x hx => by
      obtain ⟨hmem, hne⟩ := List.mem_filter.mp hx
      simpa [of_decide_eq_false (by simpa using hne)] using hitems x hmem
    exact (hperm.append_left _).trans (List.filter_append_perm (fun x => decide (key x = k)) items)

/-- The message that a row ends in, with the number of the line that the row stands below. -/
def Row.note? : Row → Option (Nat × Text)
  | .arrow line _ _ (some message) => some (line, message)
  | _ => none

namespace Sheet

/-- The messages that belong below the line. -/
def notes (s : Sheet) : List (Nat × Text) :=
  (s.anchors.filter Anchor.drawsMessage).map fun a => (s.number, a.mark.label.message)

theorem filterMap_note?_anchorRows (s : Sheet) (row : Nat) (a : Anchor) :
    (s.anchorRows row a).filterMap Row.note? =
      if a.drawsMessage then [(s.number, a.mark.label.message)] else [] := by
  cases h : a.drawsMessage <;> simp [anchorRows, List.filterMap_cons, Row.note?, h]

theorem filterMap_note?_rows (s : Sheet) : s.rows.filterMap Row.note? = s.notes := by
  have hanchors (k : Nat) (anchors : List Anchor) :
      ((anchors.zipIdx k).flatMap fun p => s.anchorRows p.2 p.1).filterMap Row.note? =
        (anchors.filter Anchor.drawsMessage).map fun a => (s.number, a.mark.label.message) := by
    induction anchors generalizing k with
    | nil => rfl
    | cons a anchors ih =>
      rw [List.zipIdx_cons, List.flatMap_cons, List.filterMap_append, ih,
        filterMap_note?_anchorRows]
      cases h : a.drawsMessage <;> simp [h]
  exact hanchors 0 s.anchors

theorem notes_of_isBare {s : Sheet} (h : s.isBare = true) : s.notes = [] := by
  rw [isBare, Bool.and_eq_true, List.isEmpty_iff] at h
  simp [notes, h.1]

end Sheet

/-- The rows that stand for bare lines have no message. -/
theorem filterMap_note?_rowsOf (quiet : Bool) (sheets : List Sheet) :
    (rowsOf quiet sheets).filterMap Row.note? = sheets.flatMap Sheet.notes := by
  fun_induction rowsOf quiet sheets with
  | case1 => rfl
  | case2 quiet s rest h ih =>
    rw [List.filterMap_append, Sheet.filterMap_note?_rows, ih, List.flatMap_cons]
  | case3 s rest h ih | case4 quiet s rest h hq hc ih | case5 quiet s rest h hq hc ih =>
    have hbare : s.isBare = true := by simpa using h
    simp [List.filterMap_cons, Row.note?, Sheet.notes_of_isBare hbare, ih]

/-- The mark lies in the text, and it is long where its ends lie on different lines. -/
structure Mark.Placed (t : Text) (m : Mark) : Prop where
  start_lt_stop : m.span.start < m.span.stop
  stop_le : m.span.stop ≤ t.length
  long_iff : m.long = true ↔ Line.lineAt t m.span.start ≠ Line.lineAt t m.label.last

namespace Mark.Placed

variable {t : Text} {m : Mark} (h : m.Placed t) {n : Nat} {l : Line}
  (hl : (Line.split t)[n]? = some l)
include h

theorem last_eq : m.label.last + 1 = m.span.stop := by
  have hstart := h.start_lt_stop
  simp only [Label.last, span] at hstart ⊢
  omega

theorem last_lt : m.label.last < t.length := by
  have hstop := h.stop_le
  have hlast := h.last_eq
  omega

theorem start_le_last : m.span.start ≤ m.label.last := by
  have hstart := h.start_lt_stop
  have hlast := h.last_eq
  omega

include hl

theorem contains_start_iff : l.span.contains m.span.start = true ↔ Line.lineAt t m.span.start = n :=
  Line.contains_iff_lineAt (Nat.lt_of_le_of_lt h.start_le_last h.last_lt) hl

theorem contains_last_iff : l.span.contains m.label.last = true ↔ Line.lineAt t m.label.last = n :=
  Line.contains_iff_lineAt h.last_lt hl

/-- A long mark has its message on the line on which it ends. -/
theorem drawn_ofLong? (hlong : m.long = true) :
    ((Anchor.ofLong? l m).filter Anchor.drawsMessage).map Anchor.mark =
      if Line.lineAt t m.label.last = n then some m else none := by
  have hstart := h.contains_start_iff hl
  have hlast := h.contains_last_iff hl
  have hne := h.long_iff.mp hlong
  rw [Anchor.ofLong?]
  split
  · next hs =>
    rw [if_neg fun heq => hne (hstart.mp hs |>.trans heq.symm)]
    rfl
  · rw [if_congr hlast rfl rfl]
    split <;> rfl

omit hl in
theorem lineAt_start_eq (hshort : m.long = false) :
    Line.lineAt t m.span.start = Line.lineAt t m.label.last := by
  by_contra hne
  exact Bool.false_ne_true (hshort.symm.trans (h.long_iff.mpr hne))

/-- A short mark has its message on its line. -/
theorem drawn_ofShort? (hshort : m.long = false) :
    ((Anchor.ofShort? l m).filter Anchor.drawsMessage).map Anchor.mark =
      if Line.lineAt t m.label.last = n then some m else none := by
  have hstart := h.contains_start_iff hl
  have hlast := h.contains_last_iff hl
  have hsame := h.lineAt_start_eq hshort
  have hwithin : l.span.start ≤ m.span.start ∧ m.span.stop ≤ l.span.stop ↔
      Line.lineAt t m.label.last = n := by
    have hstartlast := h.start_le_last
    have hstop := h.last_eq
    rw [hsame, Line.contains_span_iff] at hstart
    rw [Line.contains_span_iff] at hlast
    constructor
    · intro hspan
      exact hlast.mp ⟨Nat.le_trans hspan.1 hstartlast, by omega⟩
    · intro hn
      have hin := hlast.mpr hn
      exact ⟨(hstart.mpr hn).1, by omega⟩
  have hcond : (!m.long && decide (l.span.start ≤ m.span.start) &&
      decide (m.span.stop ≤ l.span.stop)) = true ↔ Line.lineAt t m.label.last = n := by
    rw [← hwithin, hshort]
    simp
  rw [Anchor.ofShort?, if_congr hcond rfl rfl]
  split <;> rfl

end Mark.Placed

theorem filter_drawsMessage_filterMap {f : Mark → Option Anchor} {p : Mark → Bool}
    {marks : List Mark} (h : ∀ m ∈ marks,
      ((f m).filter Anchor.drawsMessage).map Anchor.mark = if p m then some m else none) :
    ((marks.filterMap f).filter Anchor.drawsMessage).map Anchor.mark = marks.filter p := by
  rw [List.filter_filterMap, List.map_filterMap, ← List.filterMap_eq_filter]
  exact List.filterMap_congr h

theorem filter_drawsMessage_list (line : Line) (marks long : List Mark) (margin : Option Anchor) :
    ((Anchor.list line marks long margin).filter Anchor.drawsMessage).Perm
      (((long.filterMap (Anchor.ofLong? line)).filter Anchor.drawsMessage) ++
        (marks.filterMap (Anchor.ofShort? line)).filter Anchor.drawsMessage) := by
  have hkept (a : Anchor) : (a.drawsMessage && !(margin.any fun m =>
      m.mark.index == a.mark.index && !a.drawsMessage)) = a.drawsMessage := by
    cases h : a.drawsMessage <;> simp
  have hsorted := (List.mergeSort_perm (((long.filterMap (Anchor.ofLong? line)).filter fun a =>
    !(margin.any fun m => m.mark.index == a.mark.index && !a.drawsMessage)) ++
      marks.filterMap (Anchor.ofShort? line)) Anchor.before).filter Anchor.drawsMessage
  rwa [List.filter_append, List.filter_filter, funext hkept] at hsorted

/-- The numbers of the lines in a range. -/
theorem map_snd_shown (lines : List Line) (range : Span) :
    ((lines.zipIdx.drop range.start).take range.size).map Prod.snd =
      List.range' range.start (min range.size (lines.length - range.start)) := by
  rw [List.map_take, List.map_drop, List.zipIdx_map_snd, List.drop_range', Nat.zero_add,
    Nat.mul_one]
  rcases Nat.le_total range.size (lines.length - range.start) with hle | hle
  · rw [List.take_range'_of_length_ge hle, Nat.min_eq_left hle]
  · rw [List.take_range'_of_length_le hle, Nat.min_eq_right hle]

theorem getElem?_of_mem_shown {lines : List Line} {range : Span} {p : Line × Nat}
    (h : p ∈ (lines.zipIdx.drop range.start).take range.size) : lines[p.2]? = some p.1 :=
  List.mem_zipIdx_iff_getElem?.mp (List.mem_of_mem_drop (List.mem_of_mem_take h))

theorem mem_shown {lines : List Line} {range : Span} {n : Nat} {l : Line}
    (hl : lines[n]? = some l) (hstart : range.start ≤ n) (hstop : n < range.stop) :
    (l, n) ∈ (lines.zipIdx.drop range.start).take range.size := by
  refine List.mem_of_getElem? (i := n - range.start) ?_
  rw [List.getElem?_take_of_lt (by rw [Span.size]; omega), List.getElem?_drop,
    Nat.add_sub_cancel' hstart, List.getElem?_zipIdx, hl]
  simp

section
variable {t : Text} {marks : List Mark} (h : ∀ m ∈ marks, m.Placed t)
include h

/-- Below a line stand the messages of the marks that end on it. -/
theorem notes_make_perm {n : Nat} {l : Line} (hl : (Line.split t)[n]? = some l) :
    (Sheet.make marks (Mark.longest marks) n l).notes.Perm
      ((marks.filter fun m => Line.lineAt t m.label.last = n).map fun m =>
        (Line.lineAt t m.label.last, m.label.message)) := by
  have hlongest : (Mark.longest marks).Perm (marks.filter Mark.long) := List.mergeSort_perm _ _
  have hlong : (((Mark.longest marks).filterMap (Anchor.ofLong? l)).filter
      Anchor.drawsMessage).map Anchor.mark =
      (Mark.longest marks).filter fun m => Line.lineAt t m.label.last = n := by
    refine filter_drawsMessage_filterMap fun m hm => ?_
    obtain ⟨hmem, hm⟩ := List.mem_filter.mp (hlongest.mem_iff.mp hm)
    simpa using (h m hmem).drawn_ofLong? hl hm
  have hshort : ((marks.filterMap (Anchor.ofShort? l)).filter
      Anchor.drawsMessage).map Anchor.mark =
      marks.filter fun m => !m.long && Line.lineAt t m.label.last = n := by
    refine filter_drawsMessage_filterMap fun m hm => ?_
    cases hcase : m.long with
    | true => simp [Anchor.ofShort?, hcase]
    | false => simpa using (h m hm).drawn_ofShort? hl hcase
  have hmarks : (((Sheet.make marks (Mark.longest marks) n l).anchors.filter
      Anchor.drawsMessage).map Anchor.mark).Perm
      (marks.filter fun m => Line.lineAt t m.label.last = n) := by
    have hlist := (filter_drawsMessage_list l marks (Mark.longest marks)
      (Anchor.margin? l (Mark.longest marks))).map Anchor.mark
    rw [List.map_append, hlong, hshort] at hlist
    have hsplit := List.filter_append_perm Mark.long
      (marks.filter fun m => Line.lineAt t m.label.last = n)
    rw [List.filter_filter, List.filter_filter] at hsplit
    have hfront := hlongest.filter fun m => Line.lineAt t m.label.last = n
    rw [List.filter_filter] at hfront
    simp only [Bool.and_comm] at hsplit hfront hlist
    exact (hlist.trans (hfront.append_right _)).trans hsplit
  have hnumber : (marks.filter fun m => Line.lineAt t m.label.last = n).map (fun m =>
      (n, m.label.message)) = (marks.filter fun m => Line.lineAt t m.label.last = n).map fun m =>
        (Line.lineAt t m.label.last, m.label.message) := by
    refine List.map_congr_left fun m hm => ?_
    rw [of_decide_eq_true (List.mem_filter.mp hm).2]
  have hnotes := hmarks.map fun m => (n, m.label.message)
  rwa [List.map_map, hnumber] at hnotes

/-- Where the lines shown are those on which the marks end, each mark has its message below its last
line. -/
theorem notes_rows_perm {range : Span} (hrange : ∀ m ∈ marks,
    range.start ≤ Line.lineAt t m.label.last ∧ Line.lineAt t m.label.last < range.stop) :
    ((Report.rows (Line.split t) marks range).filterMap Row.note?).Perm
      (marks.map fun m => (Line.lineAt t m.label.last, m.label.message)) := by
  have hnumbers := map_snd_shown (Line.split t) range
  have hsheets := List.Perm.flatMap_left (((Line.split t).zipIdx.drop range.start).take range.size)
    fun q hq => notes_make_perm h (getElem?_of_mem_shown hq)
  have hdistinct : (List.range' range.start
      (min range.size ((Line.split t).length - range.start))).Nodup := List.nodup_range'
  have hkeys := flatMap_filter_perm (fun m : Mark => Line.lineAt t m.label.last) hdistinct marks
    fun m hm => by
      have hbounds := hrange m hm
      have hlength := Line.lineAt_lt_length (h m hm).last_lt
      rw [List.mem_range'_1, Span.size]
      omega
  rw [← hnumbers, List.flatMap_map] at hkeys
  have hmapped := hkeys.map fun m => (Line.lineAt t m.label.last, m.label.message)
  rw [List.map_flatMap] at hmapped
  unfold Report.rows
  rw [filterMap_note?_rowsOf, List.flatMap_map]
  exact hsheets.trans hmapped

end

theorem isSome_foldl {α : Type*} {f : Option α → α → Option α} (hf : ∀ best a, (f best a).isSome)
    {best : Option α} {as : List α} (h : best.isSome ∨ as ≠ []) : (as.foldl f best).isSome := by
  induction as generalizing best with
  | nil => simpa using h
  | cons a as ih => exact ih (.inl (hf best a))

theorem Anchor.isSome_margin? {line : Line} {long : List Mark} {m : Mark} (hm : m ∈ long)
    (h : (ofLong? line m).isSome) : (margin? line long).isSome := by
  obtain ⟨a, ha⟩ := Option.isSome_iff_exists.mp h
  refine isSome_foldl ?_ (.inr (List.ne_nil_of_mem (List.mem_filterMap.mpr ⟨m, hm, ha⟩)))
  intro best a
  cases best with
  | none => rfl
  | some b => dsimp only; split <;> rfl

/-- The line on which a mark begins is not left out. -/
theorem Mark.Placed.isBare_make {t : Text} {marks : List Mark} {m : Mark} (h : m.Placed t)
    (hm : m ∈ marks) {l : Line} (hl : (Line.split t)[Line.lineAt t m.span.start]? = some l)
    (n : Nat) :
    (Sheet.make marks (Mark.longest marks) n l).isBare = false := by
  rw [Sheet.isBare, Bool.and_eq_false_iff]
  cases hlong : m.long with
  | true =>
    right
    have hmem : m ∈ Mark.longest marks :=
      (List.mergeSort_perm _ _).mem_iff.mpr (List.mem_filter.mpr ⟨hm, hlong⟩)
    have hstart := (h.contains_start_iff hl).mpr rfl
    have hsome : (Anchor.ofLong? l m).isSome := by simp [Anchor.ofLong?, hstart]
    simpa [Sheet.make] using Anchor.isSome_margin? hmem hsome
  | false =>
    left
    have hdrawn := h.drawn_ofShort? hl hlong
    rw [h.lineAt_start_eq hlong, if_pos rfl, Option.map_eq_some_iff] at hdrawn
    obtain ⟨a, ha, -⟩ := hdrawn
    have hshort := List.mem_filterMap.mpr ⟨m, hm, (Option.filter_eq_some_iff.mp ha).1⟩
    rw [List.isEmpty_eq_false_iff]
    exact List.ne_nil_of_mem (List.mem_mergeSort.mpr (List.mem_append_right _ hshort))

/-- The rows of the lines that are shown, and those that stand for the lines left out. -/
theorem of_mem_rowsOf {quiet : Bool} {sheets : List Sheet} {row : Row}
    (h : row ∈ rowsOf quiet sheets) : row = .skipped ∨ ∃ s ∈ sheets,
      row ∈ s.rows ∨ row = .source s.number true (s.sourceMargin true) [] := by
  have hlater {s : Sheet} {rest : List Sheet} (hrest : row = .skipped ∨ ∃ k ∈ rest,
      row ∈ k.rows ∨ row = .source k.number true (k.sourceMargin true) []) :
      row = .skipped ∨ ∃ k ∈ s :: rest,
        row ∈ k.rows ∨ row = .source k.number true (k.sourceMargin true) [] :=
    hrest.imp_right fun ⟨k, hk, hrow⟩ => ⟨k, List.mem_cons_of_mem s hk, hrow⟩
  fun_induction rowsOf quiet sheets with
  | case1 => cases h
  | case2 quiet s rest hs ih =>
    rcases List.mem_append.mp h with hown | hrest
    · exact .inr ⟨s, List.mem_cons_self, .inl hown⟩
    · exact hlater (ih hrest)
  | case3 s rest hs ih => exact hlater (ih h)
  | case4 quiet s rest hs hq hc ih =>
    rcases List.mem_cons.mp h with heq | hrest
    · exact .inr ⟨s, List.mem_cons_self, .inr heq⟩
    · exact hlater (ih hrest)
  | case5 quiet s rest hs hq hc ih =>
    rcases List.mem_cons.mp h with heq | hrest
    · exact .inl heq
    · exact hlater (ih hrest)

theorem source_mem_rowsOf (quiet : Bool) {sheets : List Sheet} {s : Sheet} (hs : s ∈ sheets)
    (h : s.isBare = false) :
    .source s.number false (s.sourceMargin false) s.sourceBody ∈ rowsOf quiet sheets := by
  fun_induction rowsOf quiet sheets with
  | case1 => cases hs
  | case2 quiet k rest hk ih =>
    rcases List.mem_cons.mp hs with rfl | hs
    · exact List.mem_append_left _ List.mem_cons_self
    · exact List.mem_append_right _ (ih hs)
  | case3 k rest hk ih =>
    rcases List.mem_cons.mp hs with rfl | hs
    · simp [h] at hk
    · exact ih hs
  | case4 quiet k rest hk hq hc ih | case5 quiet k rest hk hq hc ih =>
    rcases List.mem_cons.mp hs with rfl | hs
    · simp [h] at hk
    · exact List.mem_cons_of_mem _ (ih hs)

/-- The characters of the label are characters of the text, and there is at least one. -/
structure Label.Within (t : Text) (l : Label) : Prop where
  start_lt_stop : l.span.start < l.span.stop
  stop_le : l.span.stop ≤ t.length

namespace Label.Within

variable {t : Text} {l : Label} (h : l.Within t)
include h

theorem last_eq : l.last = l.span.stop - 1 :=
  Nat.max_eq_left (Nat.le_sub_one_of_lt h.start_lt_stop)

theorem start_lt : l.span.start < t.length := Nat.lt_of_lt_of_le h.start_lt_stop h.stop_le

theorem last_lt : l.last < t.length := by
  have hstart := h.start_lt_stop
  have hstop := h.stop_le
  rw [h.last_eq]
  omega

theorem lines?_eq : l.lines? (Line.split t) =
    some (Line.lineAt t l.span.start, Line.lineAt t l.last) := by
  have hfirst := locate?_split h.start_lt
  have hlast := locate?_split h.last_lt
  rw [h.last_eq] at hlast ⊢
  simp [lines?, hfirst, hlast, h.start_lt_stop]

end Label.Within

namespace Mark

variable {t : Text} {labels : List Label} (h : ∀ l ∈ labels, l.Within t)
include h

theorem ofLabels_eq_map : ofLabels (Line.split t) labels = labels.zipIdx.map fun p =>
    ⟨p.2, p.1, Line.lineAt t p.1.span.start != Line.lineAt t p.1.last⟩ := by
  rw [ofLabels, ← List.filterMap_eq_map]
  refine List.filterMap_congr fun p hp => ?_
  have hmem : p.1 ∈ labels := List.fst_mem_of_mem_zipIdx hp
  simp [(h p.1 hmem).lines?_eq]

theorem map_label_ofLabels : (ofLabels (Line.split t) labels).map label = labels := by
  rw [ofLabels_eq_map h, List.map_map]
  exact List.zipIdx_map_fst 0 labels

theorem placed_of_mem_ofLabels {m : Mark} (hm : m ∈ ofLabels (Line.split t) labels) :
    m.Placed t := by
  rw [ofLabels_eq_map h] at hm
  obtain ⟨p, hp, rfl⟩ := List.mem_map.mp hm
  have hwithin := h p.1 (List.fst_mem_of_mem_zipIdx hp)
  exact ⟨hwithin.start_lt_stop, hwithin.stop_le, bne_iff_ne⟩

end Mark

end Excerpt

namespace Report

open Excerpt

theorem hull_bounds (first : Mark) (rest : List Mark) :
    (∀ m ∈ first :: rest, (hull first rest).start ≤ m.span.start ∧
      m.span.stop ≤ (hull first rest).stop) ∧
    ∃ m ∈ first :: rest, (hull first rest).stop = m.span.stop := by
  induction rest generalizing first with
  | nil => simp [hull]
  | cons m rest ih =>
    -- Only the span of the first mark counts, so the first two may be taken as one.
    let joined : Mark := { first with label := { first.label with
      span := ⟨min first.span.start m.span.start, max first.span.stop m.span.stop⟩ } }
    have hjoined : hull first (m :: rest) = hull joined rest := rfl
    obtain ⟨hcover, k, hk, hstop⟩ := ih joined
    have hfirst : min first.span.start m.span.start ≥ (hull joined rest).start ∧
        max first.span.stop m.span.stop ≤ (hull joined rest).stop :=
      hcover joined List.mem_cons_self
    rw [hjoined]
    refine ⟨fun u hu => ?_, ?_⟩
    · rcases List.mem_cons.mp hu with rfl | hu
      · omega
      · rcases List.mem_cons.mp hu with rfl | hu
        · omega
        · exact hcover u (List.mem_cons_of_mem _ hu)
    · rcases List.mem_cons.mp hk with rfl | hk
      · rcases Nat.le_total first.span.stop m.span.stop with hle | hle
        · exact ⟨m, by simp, hstop.trans (Nat.max_eq_right hle)⟩
        · exact ⟨first, by simp, hstop.trans (Nat.max_eq_left hle)⟩
      · exact ⟨k, by simp [hk], hstop⟩

theorem lineRange_split {t : Text} {s : Span} (hstart : s.start < s.stop)
    (hstop : s.stop ≤ t.length) :
    lineRange (Line.split t) s = ⟨Line.lineAt t s.start, Line.lineAt t (s.stop - 1) + 1⟩ := by
  have hlast : max (s.stop - 1) s.start = s.stop - 1 :=
    Nat.max_eq_left (Nat.le_sub_one_of_lt hstart)
  have hfirst := locate?_split (Nat.lt_of_lt_of_le hstart hstop)
  have hfound := locate?_split (t := t) (i := s.stop - 1) (by omega)
  simp [lineRange, hlast, hfirst, hfound]

/-- The labels that lie in the source, as marks. -/
def marks (r : Report) (source : Text) : List Mark := Mark.ofLabels (Line.split source) r.labels

/-- The lines shown, by number. -/
def shownLines (r : Report) (source : Text) : Span :=
  match r.marks source with
  | [] => ⟨0, 0⟩
  | first :: rest => lineRange (Line.split source) (hull first rest)

/-- The rows shown between the caption and the advice. -/
def excerpt (r : Report) (source : Text) : List Row :=
  rows (Line.split source) (r.marks source) (r.shownLines source)

/-- The columns of the line numbers. -/
def numberWidth (r : Report) (source : Text) : Nat :=
  numberColumns (r.shownLines source).stop

theorem render_of_marks_eq_nil {r : Report} {source : Text} (h : r.marks source = [])
    (filename : Text) : r.render source filename = r.heading := by
  rw [marks] at h
  simp only [render, h, List.append_nil]

/-- The caption of an excerpt, for a name with a place in it. -/
def titled (width : Nat) (title : Text) : Text :=
  List.replicate (width + 2) ' ' ++ paint .frame ['╭'] ++ paint .frame ['─'] ++
    paint .frame ['['] ++ title ++ paint .frame [']'] ++ '\n' ::
    List.replicate (width + 2) ' ' ++ paint .frame ['│'] ++ ['\n']

/-- A report in full, with that name and place above its excerpt. -/
def framed (r : Report) (source title : Text) : Text :=
  r.heading ++ titled (r.numberWidth source) title ++
    (r.excerpt source).flatMap (renderRow (r.numberWidth source)) ++
    (r.help.map (helpRows (r.numberWidth source) (Line.split source) (r.marks source))).getD [] ++
    closing (r.numberWidth source)

theorem caption_eq_titled (width : Nat) (lines : List Line) (filename : Text) (position : Nat) :
    caption width lines filename position =
      titled width (filename ++ ':' :: place lines position) := by
  simp [caption, titled]

theorem render_of_marks_ne_nil {r : Report} {source : Text} (h : r.marks source ≠ [])
    (filename : Text) : r.render source filename =
      r.framed source (filename ++ ':' :: place (Line.split source) r.position) := by
  obtain ⟨first, rest, hmarks⟩ := List.exists_cons_of_ne_nil h
  unfold framed numberWidth excerpt shownLines
  rw [← caption_eq_titled, hmarks]
  rw [marks] at hmarks
  simp only [render, hmarks, List.append_assoc]

theorem place_split {t : Text} {i : Nat} (h : i < t.length) : place (Line.split t) i =
    Text.decimal (Line.lineAt t i + 1) ++ ':' :: Text.decimal (Line.columnAt t i + 1) := by
  rw [place, locate?_split h]

section
variable {r : Report} {source : Text} (h : ∀ l ∈ r.labels, l.Within source)
include h

theorem placed_of_mem_marks {m : Mark} (hm : m ∈ r.marks source) : m.Placed source :=
  Mark.placed_of_mem_ofLabels h hm

theorem map_label_marks : (r.marks source).map Mark.label = r.labels := Mark.map_label_ofLabels h

/-- The lines shown are those that the hull of the marks meets. -/
theorem shownLines_bounds {m : Mark} (hm : m ∈ r.marks source) :
    (r.shownLines source).start ≤ Line.lineAt source m.span.start ∧
      Line.lineAt source m.label.last < (r.shownLines source).stop := by
  cases hmarks : r.marks source with
  | nil => simp [hmarks] at hm
  | cons first rest =>
    obtain ⟨hcover, k, hk, hstop⟩ := hull_bounds first rest
    rw [← hmarks] at hcover hk
    have hplaced := placed_of_mem_marks h hm
    have hwithin := (placed_of_mem_marks h hk).stop_le
    have hbounds := hcover m hm
    have hstart := hplaced.start_lt_stop
    have hlast := hplaced.last_eq
    have hrange : lineRange (Line.split source) (hull first rest) =
        ⟨Line.lineAt source (hull first rest).start,
          Line.lineAt source ((hull first rest).stop - 1) + 1⟩ :=
      lineRange_split (by omega) (by omega)
    rw [shownLines, hmarks]
    simp only [hrange]
    exact ⟨Line.lineAt_mono source hbounds.1,
      Nat.lt_succ_of_le (Line.lineAt_mono source (by omega))⟩

/-- The messages of an excerpt are those of its labels, each below the line with the label's last
character. -/
theorem notes_excerpt_perm : ((r.excerpt source).filterMap Row.note?).Perm
    (r.labels.map fun l => (Line.lineAt source l.last, l.message)) := by
  have hnotes := notes_rows_perm (fun m hm => placed_of_mem_marks h hm) fun m hm => by
    have hbounds := shownLines_bounds h hm
    have hmono := Line.lineAt_mono source (placed_of_mem_marks h hm).start_le_last
    exact ⟨Nat.le_trans hbounds.1 hmono, hbounds.2⟩
  rwa [← map_label_marks h, List.map_map]

/-- The lines on which labels begin are shown. -/
theorem source_mem_excerpt {l : Label} (hl : l ∈ r.labels) : ∃ margin body,
    .source (Line.lineAt source l.span.start) false margin body ∈ r.excerpt source := by
  rw [← map_label_marks h] at hl
  obtain ⟨m, hm, rfl⟩ := List.mem_map.mp hl
  have hplaced := placed_of_mem_marks h hm
  have hbounds := shownLines_bounds h hm
  have hmono := Line.lineAt_mono source hplaced.start_le_last
  have hline := List.getElem?_eq_getElem
    (Line.lineAt_lt_length (Nat.lt_of_le_of_lt hplaced.start_le_last hplaced.last_lt))
  have hshown := mem_shown hline hbounds.1 (Nat.lt_of_le_of_lt hmono hbounds.2)
  have hbare := hplaced.isBare_make hm hline (Line.lineAt source m.span.start)
  exact ⟨_, _, source_mem_rowsOf false (List.mem_map_of_mem hshown) hbare⟩

end

end Report
end SqlTemplate
