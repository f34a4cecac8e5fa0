import SqlTemplate.Proofs.PolicyAgreement
import SqlTemplate.Report

/-! # The refusal of a template: when there is one, where it points, what its report says

The refusal is found among the segments. What it says can be read off the template: it points at the
quote behind which everything is the content of one literal.
-/
namespace SqlTemplate

namespace OpenLiteral

/-- Behind `front` the template `t` is one literal that stays open, the one of `e`. Its first quote
opens it: neither does it close a literal nor is it the second half of a doubled quote. -/
structure Locates (e : OpenLiteral) (t front : Text) : Prop where
  template_eq : t = front ++ quote :: Token.doubleQuotes e.content
  span_eq : e.span = ⟨front.byteSize, t.byteSize⟩
  even : Even (front.count quote)
  last : front.getLast? ≠ some quote

namespace Locates

variable {e : OpenLiteral} {t front : Text} (h : e.Locates t front)
include h

theorem start_lt_stop : e.span.start < e.span.stop := by
  have hsize : 0 < Text.byteSize (quote :: Token.doubleQuotes e.content) :=
    Text.byteSize_pos (List.cons_ne_nil _ _)
  rw [h.span_eq, h.template_eq, Text.byteSize_append]
  exact Nat.lt_add_of_pos_right hsize

theorem ofTemplate_eq (policy : Policy) : Statement.ofTemplate policy t =
    ⟨(Token.scan front).flatMap (Token.emitted .verbatim) ++
        (Token.unterminated e.content).emitted policy,
      (Token.scan front).filterMap (Token.pattern? .verbatim) ++
        ((Token.unterminated e.content).pattern? policy).toList,
      Token.segmentsFrom .verbatim 0 (Token.scan front) ++
        [Token.openSegmentAfter policy (Token.scan front) e.content],
      some (Token.openSegmentAfter policy (Token.scan front) e.content).span⟩ := by
  have hopen := Statement.ofTemplate_append_unterminated policy h.even h.last e.content
  rw [Statement.ofTokens_append_singleton policy (Token.not_mem_scan_of_even h.even)] at hopen
  rw [h.template_eq]
  exact hopen

theorem span_openSegmentAfter (policy : Policy) :
    (Token.openSegmentAfter policy (Token.scan front) e.content).span = e.span := by
  rw [h.span_eq, h.template_eq, Text.byteSize_append, Token.openSegmentAfter, Token.render_scan]
  rfl

theorem prepare_eq_error : prepare .reject t = .error e := by
  rw [Statement.prepare_eq_error_iff]
  refine ⟨rfl, Token.openSegmentAfter .reject (Token.scan front) e.content,
    Statement.openSegment_of_segments_eq .reject t (by rw [h.ofTemplate_eq]) rfl, ?_⟩
  rw [h.span_openSegmentAfter]
  rfl

/-- The literal is a pattern of its own where open literals may be patterns. -/
theorem length_patterns_iff : (Statement.ofTemplate .pattern t).patterns.length =
    (Statement.ofTemplate .verbatim t).patterns.length + 1 ↔ marker ∈ e.content := by
  rw [h.ofTemplate_eq, h.ofTemplate_eq]
  by_cases hm : marker ∈ e.content <;>
    simp [Token.pattern?, Token.kind?, Token.content?, Kind.classify, hm]

end Locates

theorem format?_of_start_lt_stop {e : OpenLiteral} (h : e.span.start < e.span.stop)
    (source filename : Text) : e.format? source filename = some (e.report.render source filename) :=
  if_neg (Nat.lt_asymm h)

/-- The label of the report says whether a pattern is lost. -/
theorem labels_report (e : OpenLiteral) : e.report.labels = [⟨e.span,
    if marker ∈ e.content then "literal contains a pattern but has no closing quote".toList
    else "literal has no closing quote".toList, .red⟩] := by
  simp only [report, holdsPattern, decide_eq_true_eq]

end OpenLiteral

namespace Statement

/-- In front of an open literal there is text or nothing, so no quote comes right before it. -/
theorem locates_of_scan_eq_append {t : Text} (hodd : Odd (t.count quote)) {front : List Token}
    {c : Text} (hscan : Token.scan t = front ++ [.unterminated c]) :
    OpenLiteral.Locates ⟨⟨(Token.render front).byteSize, t.byteSize⟩, c⟩ t
      (Token.render front) := by
  have hw := Token.wellFormed_scan t
  have ht := Token.render_scan t
  rw [hscan] at hw ht
  rw [Token.render_append, Token.render_cons, Token.render_nil, List.append_nil] at ht
  have heven : Even ((Token.render front).count quote) := by
    rw [← ht, List.count_append, Nat.odd_add'] at hodd
    exact hodd.mp (Token.odd_count_quote_unterminated c)
  have hbefore : ∀ u ∈ front.getLast?, u.isText = true := by
    intro u hu
    have hne := (List.isChain_append.mp hw.alternate).2.2 u hu (.unterminated c) rfl
    simpa [Token.isText] using hne
  exact ⟨ht.symm, rfl, heven, Token.getLast_ne_quote_of_isText
    (fun w hmem => hw.slices w (List.mem_append_left _ hmem)) hbefore⟩

theorem prepare_reject_eq_error_iff (t : Text) (e : OpenLiteral) :
    prepare .reject t = .error e ↔ ∃ front, e.Locates t front := by
  constructor
  · intro h
    have hodd := ((exists_prepare_eq_error_iff t .reject).mp ⟨e, h⟩).2
    obtain ⟨front, c, hscan, -⟩ := scan_eq_append_of_odd hodd
    have hlocates := locates_of_scan_eq_append hodd hscan
    rw [hlocates.prepare_eq_error] at h
    cases h
    exact ⟨_, hlocates⟩
  · rintro ⟨front, h⟩
    exact h.prepare_eq_error

/-- `Policy.reject` refuses the templates with an odd number of quotes, and the refusal points at
the literal that is open. Its report can be drawn, and tells when `Policy.pattern` would find one
pattern more than `Policy.verbatim`. -/
theorem refusal_points_at_open_literal (t : Text) :
    ((∃ e, prepare .reject t = .error e) ↔ Odd (t.count quote)) ∧
    ∀ e, (prepare .reject t = .error e ↔ ∃ front, e.Locates t front) ∧
      (prepare .reject t = .error e →
        e.span.start < e.span.stop ∧
        (∀ filename, e.format? t filename = some (e.report.render t filename)) ∧
        ∃ v p, prepare .verbatim t = .ok v ∧ prepare .pattern t = .ok p ∧
          e.report.labels = [⟨e.span,
            if p.patterns.length = v.patterns.length + 1 then
              "literal contains a pattern but has no closing quote".toList
            else "literal has no closing quote".toList, .red⟩]) := by
  have hodd := exists_prepare_eq_error_iff t .reject
  rw [eq_self, true_and] at hodd
  refine ⟨hodd, fun e => ⟨prepare_reject_eq_error_iff t e, fun he => ?_⟩⟩
  obtain ⟨front, h⟩ := (prepare_reject_eq_error_iff t e).mp he
  refine ⟨h.start_lt_stop, OpenLiteral.format?_of_start_lt_stop h.start_lt_stop t,
    ofTemplate .verbatim t, ofTemplate .pattern t, rfl, rfl, ?_⟩
  simp only [OpenLiteral.labels_report, h.length_patterns_iff]

theorem refusal_points_behind_wide_character :
    prepare .reject "é'%''".toList = .error ⟨⟨2, 6⟩, "%'".toList⟩ ∧
      (∃ front, OpenLiteral.Locates ⟨⟨2, 6⟩, "%'".toList⟩ "é'%''".toList front) ∧
      OpenLiteral.format? ⟨⟨2, 6⟩, "%'".toList⟩ "é'%''".toList [] ≠ none := by
  have hrefused : prepare .reject "é'%''".toList = .error ⟨⟨2, 6⟩, "%'".toList⟩ := by
    decide +kernel
  obtain ⟨hlocates, hreport⟩ := (refusal_points_at_open_literal "é'%''".toList).2 _
  obtain ⟨-, hformat, -⟩ := hreport hrefused
  refine ⟨hrefused, hlocates.mp hrefused, ?_⟩
  rw [hformat []]
  exact Option.some_ne_none _

end Statement
end SqlTemplate
