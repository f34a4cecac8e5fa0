import SqlTemplate.Proofs.StatementConsistency

/-! # A statement holds all of its template

Putting the source of each segment back in its place turns the SQL into the template again. This
takes no knowledge of the policy, so different templates never have the same statement.
-/
namespace SqlTemplate.Statement

variable {policy : Policy}

/-- Puts the sources of segments back into the SQL that begins where the template had the offset
`i`. A pattern has left a placeholder, any other literal its source. -/
def restore : Nat → Text → List Segment → Text
  | _, sql, [] => sql
  | i, sql, g :: gs =>
    let (kept, r) := sql.splitAtByte (g.span.start - i)
    let left := if g.kind = .pattern then placeholder.utf8Size else g.span.size
    kept ++ g.source ++ restore g.span.stop (r.splitAtByte left).2 gs

/-- The template, from nothing but the SQL and the segments. -/
def template (s : Statement) : Text := restore 0 s.sql s.segments

theorem restore_append {i : Nat} {u : Text} {gs : List Segment}
    (h : ∀ g ∈ gs.head?, i + u.byteSize ≤ g.span.start) (sql : Text) :
    restore i (u ++ sql) gs = u ++ restore (i + u.byteSize) sql gs := by
  cases gs with
  | nil => rfl
  | cons g gs =>
    have hg := h g (by simp)
    have hsub : g.span.start - i = u.byteSize + (g.span.start - (i + u.byteSize)) := by omega
    simp only [restore]
    rw [hsub, Text.splitAtByte_byteSize_add]
    simp

/-- What a segment has left in front of the SQL gives way to its source. -/
theorem restore_segment {i : Nat} {g : Segment} (hspan : g.span = ⟨i, i + g.source.byteSize⟩)
    (sql : Text) (gs : List Segment) :
    restore i ((if g.kind = .pattern then [placeholder] else g.source) ++ sql) (g :: gs) =
      g.source ++ restore (i + g.source.byteSize) sql gs := by
  cases hg : g.kind with
  | pattern =>
    have hcut := Text.splitAtByte_byteSize [placeholder] sql
    rw [Text.byteSize_cons, Text.byteSize_nil, Nat.add_zero, List.singleton_append] at hcut
    simp [restore, hspan, hg, hcut]
  | plain => simp [restore, hspan, hg, Span.size]

theorem restore_segmentsFrom (i : Nat) (ts : List Token) :
    restore i (ts.flatMap (Token.emitted policy)) (Token.segmentsFrom policy i ts) =
      Token.render ts := by
  induction ts generalizing i with
  | nil => rfl
  | cons t ts ih =>
    rw [List.flatMap_cons, Token.render_cons]
    rcases t.isText_cases with ⟨w, rfl⟩ | ht
    · have hnext : ∀ g ∈ (Token.segmentsFrom policy (i + w.byteSize) ts).head?,
          i + w.byteSize ≤ g.span.start := by
        intro g hg
        exact Token.le_start_of_mem (List.mem_of_mem_head? hg)
      have hcopy := restore_append hnext (ts.flatMap (Token.emitted policy))
      rw [ih] at hcopy
      exact hcopy
    · obtain ⟨g, rfl, hspan, hkind, hsegs⟩ := Token.segmentsFrom_cons_of_quoted ht policy i ts
      have hput := restore_segment hspan (ts.flatMap (Token.emitted policy))
        (Token.segmentsFrom policy (i + g.source.byteSize) ts)
      rw [ih] at hput
      rw [hsegs, Token.emitted, hkind]
      simpa [Segment.source] using hput

@[simp] theorem template_ofTemplate (policy : Policy) (t : Text) :
    (ofTemplate policy t).template = t := by
  rw [template, sql_ofTemplate, segments_ofTemplate, restore_segmentsFrom, Token.render_scan]

example : template ⟨"v(?, 'x".toList, ["%m".toList],
    [⟨.pattern, ⟨2, 6⟩, "%m".toList, true⟩, ⟨.plain, ⟨8, 10⟩, "x".toList, false⟩],
    some ⟨8, 10⟩⟩ = "v('%m', 'x".toList := by decide

/-- One function finds the template of every statement, whatever the policy was. -/
theorem template_recovered (policy : Policy) (t : Text) :
    (ofTemplate policy t).template = t ∧
    (∀ s, prepare policy t = .ok s → s.template = t) ∧
    ∀ policy' t', ofTemplate policy t = ofTemplate policy' t' → t = t' := by
  refine ⟨template_ofTemplate policy t, ?_, ?_⟩
  · intro s h
    rw [eq_ofTemplate_of_prepare policy t h, template_ofTemplate]
  · intro policy' t' h
    rw [← template_ofTemplate policy t, h, template_ofTemplate]

end SqlTemplate.Statement
