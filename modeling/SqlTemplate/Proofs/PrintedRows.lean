import SqlTemplate.Proofs.DrawnMessages

/-! # The rows of an excerpt as they are printed

All cells of a row are blank or painted, so what is printed for a row without a message ends in a
blank or in the `m` of a colour code. A message that ends otherwise, and in which no other message
ends, is printed at the end of one row only: that of its arrow.
-/
namespace SqlTemplate

namespace Excerpt

/-- A cell is blank or painted. -/
def Cell.IsDrawn (c : Cell) : Prop := c = .blank ∨ c.color ≠ none

@[simp] theorem Cell.isDrawn_blank : Cell.blank.IsDrawn := .inl rfl

@[simp] theorem Cell.isDrawn_painted (color : Color) (glyph : Char) :
    (Cell.painted color glyph).IsDrawn := .inr (Option.some_ne_none color)

namespace Sheet

variable (s : Sheet)

theorem isDrawn_sourceMargin (elided : Bool) : ∀ c ∈ s.sourceMargin elided, c.IsDrawn := by
  unfold sourceMargin
  rw [List.forall_mem_flatMap]
  intro column _
  extract_lets arrow
  have harrow : ∀ c ∈ arrow, c.IsDrawn := by
    unfold arrow
    repeat' split
    all_goals simp [blanks]
  have hbar (m : Mark) : ∀ c ∈ sourceMargin.bar elided m, c.IsDrawn := by simp [sourceMargin.bar]
  split
  · exact harrow
  · split
    · exact harrow
    · exact harrow
    · split
      · exact harrow
      · exact hbar _
    · exact hbar _

theorem isDrawn_rowMargin (row : Nat) (arrow : Bool) : ∀ c ∈ s.rowMargin row arrow, c.IsDrawn := by
  unfold rowMargin
  rw [List.forall_mem_flatMap]
  intro column _
  dsimp only
  split
  · simp
  · split
    · simp
    · split <;> simp [blanks]

theorem isDrawn_sourceBody : ∀ c ∈ s.sourceBody, c.IsDrawn := by
  unfold sourceBody
  rw [List.forall_mem_flatMap]
  rintro ⟨c, column⟩ _
  dsimp only
  split <;> simp

theorem isDrawn_fill {first rest : Cell} (hfirst : first.IsDrawn) (hrest : rest.IsDrawn)
    (width : Nat) : ∀ c ∈ fill width first rest, c.IsDrawn := by
  cases width with
  | zero => simp [fill]
  | succ n => simp [fill, hfirst, hrest]

theorem isDrawn_stemsBody (row : Nat) : ∀ c ∈ s.stemsBody row, c.IsDrawn := by
  unfold stemsBody
  rw [List.forall_mem_flatMap]
  rintro ⟨column, width⟩ _
  dsimp only
  repeat' split
  all_goals apply isDrawn_fill <;> simp

theorem isDrawn_arrowBody (row : Nat) (a : Anchor) : ∀ c ∈ s.arrowBody row a, c.IsDrawn := by
  unfold arrowBody
  rw [List.forall_mem_flatMap]
  rintro ⟨column, width⟩ _
  dsimp only
  repeat' split
  all_goals apply isDrawn_fill <;> simp

end Sheet

namespace Row

/-- The cells that are painted in a row, from left to right. -/
def drawnCells : Row → List Cell
  | .source _ _ margin body | .stems _ margin body | .arrow _ margin body _ => margin ++ body
  | .skipped => []

/-- The row stands below the line with that number. -/
def IsBelow (number : Nat) : Row → Prop
  | .stems line _ _ | .arrow line _ _ _ => line = number
  | .source _ _ _ _ | .skipped => False

end Row

theorem Cell.exists_render_eq {c : Cell} (h : c.IsDrawn) :
    ∃ w, ∃ glyph ∈ [' ', 'm'], c.render = w ++ [glyph] := by
  rcases h with rfl | hcolor
  · exact ⟨[], ' ', by simp, rfl⟩
  · obtain ⟨color, hsome⟩ := Option.ne_none_iff_exists'.mp hcolor
    refine ⟨'\x1b' :: '[' :: color.code ++ 'm' :: [c.glyph] ++ ['\x1b', '[', '0'], 'm', by simp, ?_⟩
    simp [Cell.render, hsome, paint]

/-- Behind cells a blank or the end of a colour code is printed. -/
theorem exists_cells_eq {w : Text} {cs : List Cell} (h : ∀ c ∈ cs, c.IsDrawn) :
    ∃ u, ∃ glyph ∈ [' ', 'm'], w ++ [' '] ++ Report.cells cs = u ++ [glyph] := by
  rcases List.eq_nil_or_concat' cs with rfl | ⟨front, c, rfl⟩
  · exact ⟨w, ' ', by simp, by simp [Report.cells]⟩
  · obtain ⟨u, glyph, hglyph, hrender⟩ := Cell.exists_render_eq (h c (by simp))
    refine ⟨w ++ [' '] ++ Report.cells front ++ u, glyph, hglyph, ?_⟩
    simp [Report.cells, hrender]

end Excerpt

namespace Report

open Excerpt

/-- What is printed for a row: an edge, the cells and the message. -/
theorem exists_renderRow_eq (width : Nat) (row : Row) : ∃ w, renderRow width row =
    w ++ [' '] ++ cells row.drawnCells ++ (row.note?.elim [] fun p => ' ' :: p.2) ++ ['\n'] := by
  have hedge (number : Option Nat) (bar : Char) : ∃ w, edge width number bar = w ++ [' '] :=
    ⟨_, rfl⟩
  have hcells (cs ds : List Cell) : cells (cs ++ ds) = cells cs ++ cells ds := List.flatMap_append
  cases row with
  | source n elided margin body =>
    cases elided with
    | false =>
      obtain ⟨w, hw⟩ := hedge (some n) '│'
      exact ⟨w, by simp [renderRow, Row.drawnCells, Row.note?, hw, hcells]⟩
    | true =>
      obtain ⟨w, hw⟩ := hedge none '┆'
      exact ⟨w, by simp [renderRow, Row.drawnCells, Row.note?, hw, hcells]⟩
  | skipped =>
    obtain ⟨w, hw⟩ := hedge none '│'
    exact ⟨w, by simp [renderRow, Row.drawnCells, Row.note?, hw, cells]⟩
  | stems n margin body =>
    obtain ⟨w, hw⟩ := hedge none '│'
    exact ⟨w, by simp [renderRow, Row.drawnCells, Row.note?, hw, hcells]⟩
  | arrow n margin body message =>
    obtain ⟨w, hw⟩ := hedge none '│'
    cases message <;> exact ⟨w, by simp [renderRow, Row.drawnCells, Row.note?, hw, hcells]⟩

/-- The row is printed with the message at its end. -/
def PrintsLast (width : Nat) (message : Text) (row : Row) : Prop :=
  ' ' :: message ++ ['\n'] <:+ renderRow width row

theorem printsLast_of_note? (width : Nat) {row : Row} {n : Nat} {message : Text}
    (h : row.note? = some (n, message)) : PrintsLast width message row := by
  obtain ⟨w, hw⟩ := exists_renderRow_eq width row
  rw [PrintsLast, hw, h]
  exact ⟨w ++ [' '] ++ cells row.drawnCells, by simp⟩

theorem not_printsLast_of_note?_eq_none (width : Nat) {row : Row} (h : row.note? = none)
    (hcells : ∀ c ∈ row.drawnCells, c.IsDrawn) {front : Text} {c : Char} (hc : c ∉ [' ', 'm']) :
    ¬ PrintsLast width (front ++ [c]) row := by
  obtain ⟨w, hw⟩ := exists_renderRow_eq width row
  obtain ⟨u, glyph, hglyph, hu⟩ := exists_cells_eq (w := w) hcells
  rw [PrintsLast, hw, h, hu]
  rintro ⟨v, hv⟩
  have hsplit : v ++ ' ' :: front ++ [c, '\n'] = u ++ [glyph, '\n'] := by simpa using hv
  obtain rfl := List.head_eq_of_cons_eq (List.append_inj' hsplit rfl).2
  exact hc hglyph

end Report

namespace Excerpt

theorem Sheet.isBelow_of_mem_anchorRows {s : Sheet} {row : Row}
    (h : row ∈ s.anchors.zipIdx.flatMap fun p => s.anchorRows p.2 p.1) : row.IsBelow s.number := by
  obtain ⟨p, -, hrow⟩ := List.mem_flatMap.mp h
  simp only [anchorRows, List.mem_cons, List.not_mem_nil, or_false] at hrow
  rcases hrow with rfl | rfl <;> rfl

theorem Row.note?_eq_some_iff {row : Row} {n : Nat} {message : Text} :
    row.note? = some (n, message) ↔ ∃ margin body, row = .arrow n margin body (some message) := by
  cases row with
  | source | skipped | stems => simp [note?]
  | arrow k margin body m => cases m <;> simp [note?]

theorem Row.eq_of_isBelow {row : Row} {line n : Nat} {message : Text} (h : row.IsBelow n)
    (hnote : row.note? = some (line, message)) : line = n := by
  obtain ⟨margin, body, rfl⟩ := Row.note?_eq_some_iff.mp hnote
  exact h

/-- A message stands below a row of the source, with only rows of the same line between. -/
theorem exists_source_of_note? (quiet : Bool) (sheets : List Sheet) {above below : List Row}
    {row : Row} {n : Nat} {message : Text} (hrows : rowsOf quiet sheets = above ++ row :: below)
    (hnote : row.note? = some (n, message)) :
    ∃ front margin body between, above = front ++ .source n false margin body :: between ∧
      ∀ r ∈ between, r.IsBelow n := by
  fun_induction rowsOf quiet sheets generalizing above with
  | case1 => simp at hrows
  | case2 quiet s rest h ih =>
    rw [Sheet.rows, List.cons_append] at hrows
    rcases List.cons_eq_append_iff.mp hrows with ⟨-, heq⟩ | ⟨front, rfl, hrest⟩
    · obtain rfl := List.head_eq_of_cons_eq heq
      cases hnote
    · rcases List.append_eq_append_iff.mp hrest with ⟨front', rfl, hlater⟩ | ⟨own, hown, hlater⟩
      · obtain ⟨above, margin, body, between, rfl, hbelow⟩ := ih hlater
        exact ⟨_, margin, body, between, (List.append_assoc (_ :: _) _ _).symm, hbelow⟩
      · cases own with
        | nil =>
          obtain ⟨above, margin, body, between, hnil, -⟩ := @ih [] hlater.symm
          simp at hnil
        | cons r own =>
          obtain rfl := List.head_eq_of_cons_eq hlater
          have hbelow : ∀ r ∈ front ++ row :: own, r.IsBelow s.number := by
            rw [← hown]
            exact fun r hr => Sheet.isBelow_of_mem_anchorRows hr
          obtain rfl := Row.eq_of_isBelow (hbelow row (by simp)) hnote
          exact ⟨[], _, _, front, rfl, fun r hr => hbelow r (List.mem_append_left _ hr)⟩
  | case3 s rest h ih => exact ih hrows
  | case4 quiet s rest h hq hc ih | case5 quiet s rest h hq hc ih =>
    rcases List.cons_eq_append_iff.mp hrows with ⟨-, heq⟩ | ⟨front, rfl, hrest⟩
    · cases heq
      cases hnote
    · obtain ⟨front', margin, body, between, rfl, hbelow⟩ := ih hrest
      exact ⟨_ :: front', margin, body, between, rfl, hbelow⟩

theorem Sheet.isDrawn_of_mem_rows {s : Sheet} {row : Row} (h : row ∈ s.rows) :
    ∀ c ∈ row.drawnCells, c.IsDrawn := by
  rcases List.mem_cons.mp h with rfl | hbelow
  · exact List.forall_mem_append.mpr ⟨s.isDrawn_sourceMargin false, s.isDrawn_sourceBody⟩
  · obtain ⟨p, -, hrow⟩ := List.mem_flatMap.mp hbelow
    simp only [anchorRows, List.mem_cons, List.not_mem_nil, or_false] at hrow
    rcases hrow with rfl | rfl
    · exact List.forall_mem_append.mpr ⟨s.isDrawn_rowMargin _ _, s.isDrawn_stemsBody _⟩
    · exact List.forall_mem_append.mpr ⟨s.isDrawn_rowMargin _ _, s.isDrawn_arrowBody _ _⟩

theorem isDrawn_of_mem_rowsOf {quiet : Bool} {sheets : List Sheet} {row : Row}
    (h : row ∈ rowsOf quiet sheets) : ∀ c ∈ row.drawnCells, c.IsDrawn := by
  rcases of_mem_rowsOf h with rfl | ⟨s, -, hown | rfl⟩
  · simp [Row.drawnCells]
  · exact Sheet.isDrawn_of_mem_rows hown
  · exact List.forall_mem_append.mpr ⟨s.isDrawn_sourceMargin true, by simp⟩

/-- No text ends in both messages, each behind a blank. -/
def EndsApart (a b : Text) : Prop := ∀ t : Text, ¬ (' ' :: a <:+ t ∧ ' ' :: b <:+ t)

theorem EndsApart.symm {a b : Text} (h : EndsApart a b) : EndsApart b a := fun t ht => h t ht.symm

end Excerpt

namespace Report

open Excerpt

theorem not_printsLast_of_endsApart (width : Nat) {row : Row} {a b : Text} (h : EndsApart a b)
    (hprints : PrintsLast width a row) : ¬ PrintsLast width b row := by
  obtain ⟨v, hv⟩ := hprints
  rintro ⟨w, hw⟩
  rw [← hw, ← List.append_assoc, ← List.append_assoc] at hv
  exact h _ ⟨⟨v, List.append_cancel_right hv⟩, List.suffix_append w _⟩

/-- Of the rows just one is printed with the message at its end. It is the row of an arrow, and no
other line is shown between it and the line with that number. -/
def DrawsOnce (rows : List Row) (width line : Nat) (message : Text) : Prop :=
  ∃ above margin body between margin' body' below,
    rows = above ++ .source line false margin body :: between ++
      .arrow line margin' body' (some message) :: below ∧
    (∀ row ∈ between, row.IsBelow line) ∧
    PrintsLast width message (.arrow line margin' body' (some message)) ∧
    ∀ row ∈ above ++ .source line false margin body :: between ++ below,
      ¬ PrintsLast width message row

theorem drawsOnce_excerpt {p : Report} {source : Text} (h : ∀ l ∈ p.labels, l.Within source)
    (hapart : (p.labels.map Label.message).Pairwise EndsApart) {l : Label} (hl : l ∈ p.labels)
    {front : Text} {c : Char} (hmessage : l.message = front ++ [c]) (hc : c ∉ [' ', 'm'])
    (width : Nat) :
    DrawsOnce (p.excerpt source) width (Line.lineAt source l.last) l.message := by
  have hperm := notes_excerpt_perm h
  have hmem : (Line.lineAt source l.last, l.message) ∈ (p.excerpt source).filterMap Row.note? :=
    hperm.mem_iff.mpr (List.mem_map_of_mem hl)
  obtain ⟨row, hrow, hnote⟩ := List.mem_filterMap.mp hmem
  obtain ⟨above, below, hrows⟩ := List.append_of_mem hrow
  have hmessages := ((hperm.map Prod.snd).pairwise_iff fun h => EndsApart.symm h).mpr
    (by rwa [List.map_map])
  rw [hrows, List.filterMap_append, List.filterMap_cons_some hnote, List.map_append, List.map_cons,
    List.pairwise_append, List.pairwise_cons] at hmessages
  obtain ⟨-, ⟨hbelow, -⟩, habove⟩ := hmessages
  have hothers : ∀ r ∈ above ++ below, ¬ PrintsLast width l.message r := by
    intro r hr
    cases hnoter : r.note? with
    | none =>
      have hmemr : r ∈ p.excerpt source := by
        rw [hrows]
        exact ((List.sublist_cons_self row below).append_left above).mem hr
      rw [hmessage]
      exact not_printsLast_of_note?_eq_none width hnoter (isDrawn_of_mem_rowsOf hmemr) hc
    | some note =>
      refine not_printsLast_of_endsApart width ?_ (printsLast_of_note? width hnoter)
      rcases List.mem_append.mp hr with hr | hr
      · exact habove _ (List.mem_map_of_mem (List.mem_filterMap.mpr ⟨r, hr, hnoter⟩)) _
          List.mem_cons_self
      · exact (hbelow _ (List.mem_map_of_mem (List.mem_filterMap.mpr ⟨r, hr, hnoter⟩))).symm
  obtain ⟨margin', body', rfl⟩ := Row.note?_eq_some_iff.mp hnote
  obtain ⟨front, margin, body, between, rfl, hbetween⟩ := exists_source_of_note? _ _ hrows hnote
  exact ⟨front, margin, body, between, margin', body', below, hrows, hbetween,
    printsLast_of_note? width hnote, hothers⟩

end Report
end SqlTemplate
