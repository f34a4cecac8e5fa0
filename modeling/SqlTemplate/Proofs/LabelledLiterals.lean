import SqlTemplate.Proofs.PatternNumbers
import SqlTemplate.Proofs.PrintedRows
import SqlTemplate.Proofs.Rejection

/-! # Reports on a template draw its literals

The bytes of an ASCII template are its characters, so a label lies on the literal that it is meant
for. The refusal of a template names the place of the quote that opens the literal, and the
explanation of a statement leaves none of the patterns out.
-/
namespace SqlTemplate

open Excerpt

namespace Text

theorem decimal_injective : Function.Injective decimal :=
  Function.LeftInverse.injective fun _ => Nat.ofDigitChars_ten_toDigits

theorem not_mem_decimal {c : Char} (h : c.isDigit = false) (n : Nat) : c ∉ decimal n := fun hmem =>
  Bool.false_ne_true (h.symm.trans (Nat.isDigit_of_mem_toDigits (by decide) (by decide) hmem))

/-- What stands behind the last blank of a text is given by the text. -/
theorem eq_of_append_blank_eq {u v a b : Text} (ha : ' ' ∉ a) (hb : ' ' ∉ b)
    (h : u ++ ' ' :: a = v ++ ' ' :: b) : a = b := by
  have hword {w c : Text} (hc : ' ' ∉ c) :
      (w ++ ' ' :: c).reverse.takeWhile (· != ' ') = c.reverse := by
    rw [List.reverse_append, List.reverse_cons, List.append_assoc, List.takeWhile_append_of_pos]
    · simp
    · intro x hx
      rw [bne_iff_ne]
      rintro rfl
      exact hc (List.mem_reverse.mp hx)
  rw [← List.reverse_inj, ← hword ha, h, hword hb]

/-- The characters of an ASCII text are as many as its bytes, and so are those of its parts. -/
theorem byteSize_eq_length {t : Text} (h : ∀ c ∈ t, c.toNat < 128) : t.byteSize = t.length :=
  (byteSize_eq_length_iff t).mpr h

end Text

namespace OpenLiteral

/-- The message of the label on the literal. -/
def note (e : OpenLiteral) : Text :=
  if marker ∈ e.content then "literal contains a pattern but has no closing quote".toList
  else "literal has no closing quote".toList

theorem exists_note_eq (e : OpenLiteral) : ∃ front, e.note = front ++ ['e'] := by
  rw [note]
  split
  · exact ⟨"literal contains a pattern but has no closing quot".toList, by decide⟩
  · exact ⟨"literal has no closing quot".toList, by decide⟩

theorem labels_report_eq (e : OpenLiteral) : e.report.labels = [⟨e.span, e.note, .red⟩] :=
  e.labels_report

theorem mem_labels_report (e : OpenLiteral) :
    (⟨e.span, e.note, .red⟩ : Label) ∈ e.report.labels := by
  rw [labels_report_eq]
  exact List.mem_singleton_self _

namespace Locates

variable {e : OpenLiteral} {t front : Text} (h : e.Locates t front)
  (hascii : ∀ c ∈ t, c.toNat < 128)
include h

theorem length_front_lt : front.length < t.length := by
  rw [h.template_eq]
  simp

include hascii

theorem span_eq_lengths : e.span = ⟨front.length, t.length⟩ := by
  have hfront : ∀ c ∈ front, c.toNat < 128 := fun c hc =>
    hascii c (by rw [h.template_eq]; exact List.mem_append_left _ hc)
  rw [h.span_eq, Text.byteSize_eq_length hascii, Text.byteSize_eq_length hfront]

theorem within_of_mem_labels : ∀ l ∈ e.report.labels, l.Within t := by
  rw [labels_report_eq, List.forall_mem_singleton]
  refine ⟨h.start_lt_stop, ?_⟩
  rw [h.span_eq_lengths hascii]

theorem format?_eq (filename : Text) : e.format? t filename =
    some (e.report.framed t (filename ++ ':' :: (Text.decimal (Line.lineAt t front.length + 1) ++
      ':' :: Text.decimal (Line.columnAt t front.length + 1)))) := by
  have hmarks : e.report.marks t ≠ [] := by
    intro hnil
    have hlabels := Mark.map_label_ofLabels (h.within_of_mem_labels hascii)
    rw [← Report.marks, hnil, labels_report_eq] at hlabels
    cases hlabels
  have hposition : e.report.position = front.length := by
    rw [report, h.span_eq_lengths hascii]
  rw [format?_of_start_lt_stop h.start_lt_stop, Report.render_of_marks_ne_nil hmarks, hposition,
    Report.place_split h.length_front_lt]

theorem drawsOnce_note (width : Nat) : Report.DrawsOnce (e.report.excerpt t) width
    (Line.lineAt t (t.length - 1)) e.note := by
  have hwithin := h.within_of_mem_labels hascii
  have hlabel := e.mem_labels_report
  obtain ⟨stem, hstem⟩ := e.exists_note_eq
  have hdraws := Report.drawsOnce_excerpt hwithin (by simp [labels_report_eq]) hlabel hstem
    (by decide) width
  rwa [(hwithin _ hlabel).last_eq, h.span_eq_lengths hascii] at hdraws

/-- The line with the quote is shown. -/
theorem source_mem_excerpt : ∃ margin body,
    .source (Line.lineAt t front.length) false margin body ∈ e.report.excerpt t := by
  have hsource := Report.source_mem_excerpt (h.within_of_mem_labels hascii) e.mem_labels_report
  rwa [h.span_eq_lengths hascii] at hsource

end Locates

end OpenLiteral

namespace Statement

/-- The report on a template that is refused for its open literal names the line and the column of
the quote that opens the literal. It shows that line and draws the message of the label just once,
below the line with the last character. -/
theorem refusal_names_place_of_quote {t : Text} (hascii : ∀ c ∈ t, c.toNat < 128)
    (hodd : Odd (t.count quote)) (filename : Text) :
    (∀ c ∈ t, Line.isBreak c = true ↔ c ∈ ['\n', '\r', '\x0b', '\x0c']) ∧
    ∃ e front, prepare .reject t = .error e ∧ e.Locates t front ∧
      e.format? t filename = some (e.report.framed t (filename ++ ':' ::
        (Text.decimal (Line.lineAt t front.length + 1) ++
          ':' :: Text.decimal (Line.columnAt t front.length + 1)))) ∧
      (∃ margin body,
        .source (Line.lineAt t front.length) false margin body ∈ e.report.excerpt t) ∧
      Report.DrawsOnce (e.report.excerpt t) (e.report.numberWidth t)
        (Line.lineAt t (t.length - 1)) e.note := by
  obtain ⟨e, he⟩ := (exists_prepare_eq_error_iff t .reject).mpr ⟨rfl, hodd⟩
  obtain ⟨front, h⟩ := (prepare_reject_eq_error_iff t e).mp he
  exact ⟨fun c hc => Line.isBreak_iff_of_ascii (hascii c hc), e, front, he, h,
    h.format?_eq hascii filename, h.source_mem_excerpt hascii, h.drawsOnce_note hascii _⟩

theorem refusal_names_place_of_quote_behind_break :
    (∀ c ∈ "a\r\nb'%\n".toList, c.toNat < 128) ∧ Odd ("a\r\nb'%\n".toList.count quote) ∧
    ∃ e, prepare .reject "a\r\nb'%\n".toList = .error e ∧
      e.format? "a\r\nb'%\n".toList "f".toList =
        some (e.report.framed "a\r\nb'%\n".toList "f:2:2".toList) := by
  have hascii : ∀ c ∈ "a\r\nb'%\n".toList, c.toNat < 128 := by simp
  have hodd : Odd ("a\r\nb'%\n".toList.count quote) := by decide +kernel
  obtain ⟨-, e, front, he, h, hformat, -⟩ := refusal_names_place_of_quote hascii hodd "f".toList
  have hrefused : prepare .reject "a\r\nb'%\n".toList = .error ⟨⟨4, 7⟩, "%\n".toList⟩ := by
    decide +kernel
  have hspan : e.span = ⟨4, 7⟩ := by
    rw [hrefused] at he
    cases he
    rfl
  have hfront : front.length = 4 := by
    rw [h.span_eq_lengths hascii] at hspan
    exact congrArg Span.start hspan
  have htitle : "f".toList ++ ':' :: (Text.decimal (Line.lineAt "a\r\nb'%\n".toList 4 + 1) ++ ':' ::
      Text.decimal (Line.columnAt "a\r\nb'%\n".toList 4 + 1)) = "f:2:2".toList := by decide +kernel
  rw [hfront, htitle] at hformat
  exact ⟨hascii, hodd, e, he, hformat⟩

/-- The message of the label with that number, from zero. -/
def placeholderNote (k : Nat) : Text := "placeholder ".toList ++ Text.decimal (k + 1)

theorem placeholderNote_eq (k : Nat) :
    placeholderNote k = "placeholder".toList ++ ' ' :: Text.decimal (k + 1) := by
  have hword : "placeholder ".toList = "placeholder".toList ++ [' '] := by decide
  unfold placeholderNote
  rw [hword, List.append_assoc, List.singleton_append]

theorem exists_placeholderNote_eq (k : Nat) :
    ∃ front, ∃ c ∉ [' ', 'm'], placeholderNote k = front ++ [c] := by
  rcases List.eq_nil_or_concat' (Text.decimal (k + 1)) with hnil | ⟨front, c, hfront⟩
  · exact absurd hnil Nat.toDigits_ne_nil
  · have hc : c ∈ Text.decimal (k + 1) := by simp [hfront]
    refine ⟨"placeholder ".toList ++ front, c, ?_, ?_⟩
    · simp only [List.mem_cons, List.not_mem_nil, or_false, not_or]
      exact ⟨fun h => Text.not_mem_decimal rfl _ (h ▸ hc),
        fun h => Text.not_mem_decimal rfl _ (h ▸ hc)⟩
    · unfold placeholderNote
      rw [hfront, List.append_assoc]

theorem endsApart_placeholderNote {j k : Nat} (h : j ≠ k) :
    EndsApart (placeholderNote j) (placeholderNote k) := by
  rintro _ ⟨⟨u, rfl⟩, ⟨v, hv⟩⟩
  have hblank (n : Nat) : ' ' ∉ Text.decimal n := Text.not_mem_decimal rfl n
  rw [placeholderNote_eq, placeholderNote_eq, ← List.cons_append, ← List.cons_append,
    ← List.append_assoc, ← List.append_assoc] at hv
  have hnumber := Text.decimal_injective (Text.eq_of_append_blank_eq (hblank _) (hblank _) hv)
  exact h (Nat.succ_injective hnumber).symm

theorem labels_explanation (s : Statement) : s.explanation.labels =
    s.patternSegments.zipIdx.map fun p => ⟨p.1.span, placeholderNote p.2, .cyan⟩ := rfl

theorem pairwise_endsApart_explanation (s : Statement) :
    (s.explanation.labels.map Label.message).Pairwise EndsApart := by
  have hmessages : s.explanation.labels.map Label.message =
      (List.range' 0 s.patternSegments.length).map placeholderNote := by
    rw [labels_explanation, List.map_map, ← List.zipIdx_map_snd, List.map_map]
    rfl
  rw [hmessages, List.pairwise_map]
  exact List.Pairwise.imp endsApart_placeholderNote List.nodup_range'

section
variable (policy : Policy) {t : Text} (hascii : ∀ c ∈ t, c.toNat < 128)
include hascii

/-- In an ASCII template the span of a literal counts its characters. -/
theorem exists_eq_append_of_mem_segments {g : Segment} (hg : g ∈ (ofTemplate policy t).segments) :
    ∃ before after, t = before ++ g.source ++ after ∧
      g.span = ⟨before.length, (before ++ g.source).length⟩ := by
  obtain ⟨before, after, ht, -, hchars⟩ := (isSlice_of_mem_segments policy t hg).chars_iff
  refine ⟨before, after, ht, hchars.mpr fun c hc => hascii c ?_⟩
  rw [ht]
  exact List.mem_append_left _ hc

theorem within_of_mem_labels_explanation :
    ∀ l ∈ (ofTemplate policy t).explanation.labels, l.Within t := by
  rw [labels_explanation, List.forall_mem_map]
  intro p hp
  have hg : p.1 ∈ (ofTemplate policy t).segments :=
    List.mem_of_mem_filter (List.fst_mem_of_mem_zipIdx hp)
  obtain ⟨before, after, ht, hspan⟩ := exists_eq_append_of_mem_segments policy hascii hg
  have hpos := List.length_pos_iff.mpr p.1.source_ne_nil
  constructor
  · rw [hspan, List.length_append]
    exact Nat.lt_add_of_pos_right hpos
  · rw [hspan, ht]
    exact (List.sublist_append_left _ after).length_le

theorem explain_eq (filename : Text) : (ofTemplate policy t).explain t filename =
    if (ofTemplate policy t).patterns = [] then (ofTemplate policy t).explanation.heading
    else (ofTemplate policy t).explanation.framed t (filename ++ ":1:1".toList) := by
  have hlabels := Mark.map_label_ofLabels (within_of_mem_labels_explanation policy hascii)
  rw [← Report.marks] at hlabels
  have hpatterns : (ofTemplate policy t).patterns = [] ↔
      (ofTemplate policy t).explanation.marks t = [] := by
    rw [← List.map_eq_nil_iff (f := Mark.label), hlabels, labels_explanation, List.map_eq_nil_iff,
      List.zipIdx_eq_nil_iff, patterns_ofTemplate, List.map_eq_nil_iff]
  rw [explain]
  split
  · next hnil => exact Report.render_of_marks_eq_nil (hpatterns.mp hnil) filename
  · next hne =>
    have ht : 0 < t.length := by
      cases t with
      | nil => exact absurd rfl hne
      | cons c r => exact Nat.zero_lt_succ _
    rw [Report.render_of_marks_ne_nil (fun hnil => hne (hpatterns.mpr hnil))]
    have hplace : ':' :: Report.place (Line.split t) 0 = ":1:1".toList := by
      rw [Report.place_split ht]
      change ':' :: (Text.decimal 1 ++ ':' :: Text.decimal 1) = _
      decide
    exact congrArg (fun place => (ofTemplate policy t).explanation.framed t (filename ++ place))
      hplace

end

/-- The explanation of a statement states how many patterns there are, and draws the message of each
just once, below the line with the last character of its literal. -/
theorem explanation_draws_patterns (policy : Policy) {t : Text} (hascii : ∀ c ∈ t, c.toNat < 128)
    {s : Statement} (h : prepare policy t = .ok s) (filename : Text) :
    s.explanation.heading = paint .advice "Advice:".toList ++ ' ' ::
      (Text.decimal s.patterns.length ++ " placeholder(s) in template".toList) ++ ['\n'] ∧
    s.explain t filename = (if s.patterns = [] then s.explanation.heading
      else s.explanation.framed t (filename ++ ":1:1".toList)) ∧
    ∀ k < s.patterns.length, ∃ g before after, s.patternSegments[k]? = some g ∧
      t = before ++ g.source ++ after ∧ g.span = ⟨before.length, (before ++ g.source).length⟩ ∧
      Report.DrawsOnce (s.explanation.excerpt t) (s.explanation.numberWidth t)
        (Line.lineAt t ((before ++ g.source).length - 1))
        ("placeholder ".toList ++ Text.decimal (k + 1)) := by
  obtain rfl := eq_ofTemplate_of_prepare policy t h
  refine ⟨rfl, explain_eq policy hascii filename, fun k hk => ?_⟩
  rw [patterns_ofTemplate, List.length_map] at hk
  have hg := List.getElem?_eq_getElem hk
  have hmem := List.mem_of_mem_filter (List.getElem_mem hk)
  obtain ⟨before, after, ht, hspan⟩ := exists_eq_append_of_mem_segments policy hascii hmem
  refine ⟨_, before, after, hg, ht, hspan, ?_⟩
  have hlabel :
      (⟨(ofTemplate policy t).patternSegments[k].span, placeholderNote k, .cyan⟩ : Label) ∈
        (ofTemplate policy t).explanation.labels := List.mem_of_getElem? (getElem?_labels hg)
  have hwithin := within_of_mem_labels_explanation policy hascii
  obtain ⟨front, c, hc, hnote⟩ := exists_placeholderNote_eq k
  have hdraws := Report.drawsOnce_excerpt hwithin (pairwise_endsApart_explanation _) hlabel hnote hc
    ((ofTemplate policy t).explanation.numberWidth t)
  rwa [(hwithin _ hlabel).last_eq, hspan] at hdraws

theorem explanation_draws_patterns_that_share_line :
    (∀ c ∈ "'%\n','%m".toList, c.toNat < 128) ∧
    ∃ s, prepare .pattern "'%\n','%m".toList = .ok s ∧ s.patterns.length = 2 ∧
      Report.DrawsOnce (s.explanation.excerpt "'%\n','%m".toList)
        (s.explanation.numberWidth "'%\n','%m".toList) 1 "placeholder 2".toList := by
  have hascii : ∀ c ∈ "'%\n','%m".toList, c.toNat < 128 := by simp
  have hprepared : prepare .pattern "'%\n','%m".toList =
      .ok (ofTemplate .pattern "'%\n','%m".toList) := by decide +kernel
  have hlength : (ofTemplate .pattern "'%\n','%m".toList).patterns.length = 2 := by decide +kernel
  have hsegments : (ofTemplate .pattern "'%\n','%m".toList).patternSegments[1]? =
      some ⟨.pattern, ⟨5, 8⟩, "%m".toList, false⟩ := by decide +kernel
  obtain ⟨-, -, hdraws⟩ := explanation_draws_patterns .pattern hascii hprepared "f".toList
  obtain ⟨g, before, after, hg, -, hspan, hdraws⟩ := hdraws 1 (by rw [hlength]; decide)
  rw [hsegments] at hg
  obtain rfl := Option.some.inj hg
  have hend : (before ++ Segment.source ⟨.pattern, ⟨5, 8⟩, "%m".toList, false⟩).length = 8 :=
    (congrArg Span.stop hspan).symm
  have hline : Line.lineAt "'%\n','%m".toList (8 - 1) = 1 := by decide +kernel
  have hnote : "placeholder ".toList ++ Text.decimal (1 + 1) = "placeholder 2".toList := by
    decide +kernel
  rw [hend, hline, hnote] at hdraws
  exact ⟨hascii, _, hprepared, hlength, hdraws⟩

end Statement

end SqlTemplate
