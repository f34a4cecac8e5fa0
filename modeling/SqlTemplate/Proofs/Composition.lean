import Mathlib.Algebra.Ring.Parity
import SqlTemplate.Proofs.TokenJoining

/-! # Statements of a template that is cut in two

A template can be cut wherever an even number of quotes is in front, unless the cut parts two
quotes. Its statement is then that of the front followed by that of the rest.
-/
namespace SqlTemplate

def Segment.shift (n : Nat) (g : Segment) : Segment := { g with span := g.span.shift n }

namespace Token

variable {policy : Policy}

theorem even_count_quote_literal (c : Text) : Even ((literal c).source.count quote) := by
  have hc : (literal c).source.count quote = 2 * (c.count quote + 1) := by
    simp only [source, List.count_append, List.count_cons_self, List.count_nil,
      count_quote_doubleQuotes]
    omega
  rw [hc]
  exact even_two_mul _

theorem odd_count_quote_unterminated (c : Text) : Odd ((unterminated c).source.count quote) := by
  rw [source, List.count_cons_self, count_quote_doubleQuotes]
  exact odd_two_mul_add_one _

/-- A literal is left open exactly when the number of quotes is odd. -/
theorem Apart.odd_count_quote_iff {ts : List Token} (h : Apart ts) :
    Odd ((render ts).count quote) ↔ ∃ c, .unterminated c ∈ ts := by
  induction h with
  | nil => simp
  | text _ hq _ ih => simpa [source, List.count_eq_zero_of_not_mem hq] using ih
  | @literal c ts _ _ ih =>
    have heven := even_count_quote_literal c
    rw [render_cons, List.count_append, Nat.odd_add', ih]
    simp [heven]
  | @unterminated c =>
    have hodd := odd_count_quote_unterminated c
    simpa using hodd

theorem not_mem_scan_of_even {t : Text} (h : Even (t.count quote)) (c : Text) :
    .unterminated c ∉ scan t := by
  intro hc
  have hodd := (apart_scan t).odd_count_quote_iff.mpr ⟨c, hc⟩
  rw [render_scan] at hodd
  exact Nat.not_odd_iff_even.mpr h hodd

theorem Apart.append {ts us : List Token} (h : Apart ts) (hu : Apart us)
    (hclosed : ∀ c, .unterminated c ∉ ts)
    (hmeet : (∀ t ∈ ts.getLast?, t.isText = true) ∨ ∀ u ∈ us.head?, u.isText = true) :
    Apart (ts ++ us) := by
  induction h with
  | nil => exact hu
  | @text w ts hne hq _ ih =>
    refine .text hne hq (ih (fun c hc => hclosed c (by simp [hc])) ?_)
    refine hmeet.imp_left fun hlast t ht => hlast t ?_
    rw [Option.mem_def] at ht
    simp [List.getLast?_cons, ht]
  | @literal c ts hnext _ ih =>
    cases ts with
    | nil =>
      rcases hmeet with hlast | hhead
      · simp [isText] at hlast
      · exact .literal hhead hu
    | cons t ts =>
      refine .literal (by simpa using hnext) (ih (fun c hc => hclosed c (by simp [hc])) ?_)
      simpa [List.getLast?_cons] using hmeet
  | @unterminated c => exact absurd (List.mem_singleton_self _) (hclosed c)

theorem isText_of_getLast_ne_quote {ts : List Token} (hclosed : ∀ c, .unterminated c ∉ ts)
    (h : (render ts).getLast? ≠ some quote) : ∀ t ∈ ts.getLast?, t.isText = true := by
  intro t ht
  obtain ⟨front, rfl⟩ := List.getLast?_eq_some_iff.mp ht
  cases t with
  | text w => rfl
  | literal c => simp [render, source, List.getLast?_cons] at h
  | unterminated c => exact absurd (by simp) (hclosed c)

theorem getLast_ne_quote_of_isText {ts : List Token}
    (hslices : ∀ w, .text w ∈ ts → w ≠ [] ∧ quote ∉ w) (h : ∀ t ∈ ts.getLast?, t.isText = true) :
    (render ts).getLast? ≠ some quote := by
  rcases List.eq_nil_or_concat' ts with rfl | ⟨front, t, rfl⟩
  · simp
  · cases t with
    | text w =>
      obtain ⟨hne, hq⟩ := hslices w (by simp)
      intro hlast
      rw [render_append, render_cons, render_nil, List.append_nil, source,
        List.getLast?_append_of_ne_nil _ hne] at hlast
      exact hq (List.mem_of_getLast? hlast)
    | literal c | unterminated c => simp [isText] at h

theorem isText_of_head_ne_quote {ts : List Token} (h : (render ts).head? ≠ some quote) :
    ∀ t ∈ ts.head?, t.isText = true := by
  cases ts with
  | nil => simp
  | cons t ts => cases t with
    | text w => simp [isText]
    | literal c | unterminated c => simp [source] at h

/-- The condition on the ends keeps the cut from parting a doubled quote. -/
theorem apart_scan_append {a b : Text} (ha : Even (a.count quote))
    (hab : ¬ (a.getLast? = some quote ∧ b.head? = some quote)) : Apart (scan a ++ scan b) := by
  have hclosed := not_mem_scan_of_even ha
  refine (apart_scan a).append (apart_scan b) hclosed ?_
  rw [not_and_or] at hab
  refine hab.imp (fun h => isText_of_getLast_ne_quote hclosed ?_)
    (fun h => isText_of_head_ne_quote ?_)
  · rwa [render_scan]
  · rwa [render_scan]

theorem place_append (i : Nat) (ts us : List Token) :
    place i (ts ++ us) = place i ts ++ place (i + (render ts).byteSize) us := by
  induction ts generalizing i with
  | nil => rfl
  | cons t ts ih => simp [place, ih, Nat.add_assoc]

theorem place_add (n i : Nat) (ts : List Token) :
    place (n + i) ts = (place i ts).map fun p => (p.1, p.2.shift n) := by
  induction ts generalizing i with
  | nil => rfl
  | cons t ts ih =>
    simp only [place, List.map_cons, Nat.add_assoc, ih]
    rfl

theorem segment?_shift (n : Nat) (p : Token × Span) :
    segment? policy (p.1, p.2.shift n) = (segment? policy p).map (Segment.shift n) := by
  obtain ⟨t, s⟩ := p
  cases t <;> rfl

theorem segmentsFrom_append (i : Nat) (ts us : List Token) :
    segmentsFrom policy i (ts ++ us) =
      segmentsFrom policy i ts ++ segmentsFrom policy (i + (render ts).byteSize) us := by
  simp only [segmentsFrom, place_append, List.filterMap_append]

theorem segmentsFrom_add (n i : Nat) (ts : List Token) :
    segmentsFrom policy (n + i) ts = (segmentsFrom policy i ts).map (Segment.shift n) := by
  simp only [segmentsFrom, place_add, List.filterMap_map, List.map_filterMap]
  exact List.filterMap_congr fun p _ => segment?_shift n p

end Token

namespace Statement

variable (policy : Policy)

theorem openSegment_ofTemplate_eq_none_iff (t : Text) :
    (ofTemplate policy t).openSegment = none ↔ Even (t.count quote) := by
  have hparity := (Token.apart_scan t).odd_count_quote_iff
  simp only [Token.render_scan, Token.unterminated_mem_iff policy 0] at hparity
  rw [← Nat.not_odd_iff_even, hparity, openSegment, List.find?_eq_none, segments_ofTemplate]
  simp

theorem openSegment_append_shift {gs hs : List Segment} (n : Nat)
    (h : gs.find? (fun g => !g.terminated) = none) :
    (gs ++ hs.map (Segment.shift n)).find? (fun g => !g.terminated) =
      (hs.find? fun g => !g.terminated).map (Segment.shift n) := by
  rw [List.find?_append, h, Option.none_or, List.find?_map]
  rfl

/-- The statement of a template that is cut between two of its tokens. -/
theorem ofTemplate_append {a b : Text} (ha : Even (a.count quote))
    (hab : ¬ (a.getLast? = some quote ∧ b.head? = some quote)) :
    ofTemplate policy (a ++ b) =
      ⟨(ofTemplate policy a).sql ++ (ofTemplate policy b).sql,
        (ofTemplate policy a).patterns ++ (ofTemplate policy b).patterns,
        (ofTemplate policy a).segments ++
          (ofTemplate policy b).segments.map (Segment.shift a.byteSize),
        (ofTemplate policy b).openSpan.map (Span.shift a.byteSize)⟩ := by
  have hrender : Token.render (Token.scan a ++ Token.scan b) = a ++ b := by
    rw [Token.render_append, Token.render_scan, Token.render_scan]
  have hsegments : Token.segmentsFrom policy 0 (Token.scan a ++ Token.scan b) =
      (ofTemplate policy a).segments ++
        (ofTemplate policy b).segments.map (Segment.shift a.byteSize) := by
    rw [Token.segmentsFrom_append, Token.render_scan, Nat.zero_add, ← Nat.add_zero a.byteSize,
      Token.segmentsFrom_add]
    rfl
  have hclosed := (openSegment_ofTemplate_eq_none_iff policy a).mpr ha
  have hpatterns : (((ofTemplate policy a).segments ++
        (ofTemplate policy b).segments.map (Segment.shift a.byteSize)).filter
          fun g => g.kind = .pattern).map Segment.content =
      (ofTemplate policy a).patterns ++ (ofTemplate policy b).patterns := by
    rw [List.filter_append, List.map_append, List.filter_map, List.map_map]
    rfl
  have hspan : (((ofTemplate policy a).segments ++
        (ofTemplate policy b).segments.map (Segment.shift a.byteSize)).find?
          fun g => !g.terminated).map Segment.span =
      (ofTemplate policy b).openSpan.map (Span.shift a.byteSize) := by
    rw [openSegment_append_shift _ hclosed, Option.map_map]
    change _ = ((ofTemplate policy b).openSegment.map Segment.span).map _
    rw [Option.map_map]
    rfl
  rw [← hrender, ofTemplate_render (Token.apart_scan_append ha hab), ofTokens]
  simp only [hsegments, hpatterns, hspan, List.flatMap_append]
  rfl

/-- Preparing a template is preparing its parts: only the rest can be refused, and then the whole is
refused for the same literal; else the statement of the rest goes behind that of the front. -/
theorem prepare_append {a b : Text} (ha : Even (a.count quote))
    (hab : ¬ (a.getLast? = some quote ∧ b.head? = some quote)) :
    ∃ s, prepare policy a = .ok s ∧
      (∀ e, prepare policy (a ++ b) = .error e ↔
        ∃ f, prepare policy b = .error f ∧ e = ⟨f.span.shift a.byteSize, f.content⟩) ∧
      ∀ u, prepare policy b = .ok u → prepare policy (a ++ b) =
        .ok ⟨s.sql ++ u.sql, s.patterns ++ u.patterns,
          s.segments ++ u.segments.map (Segment.shift a.byteSize),
          u.openSpan.map (Span.shift a.byteSize)⟩ := by
  have hclosed := (openSegment_ofTemplate_eq_none_iff policy a).mpr ha
  have happend := ofTemplate_append policy ha hab
  have hopen : (ofTemplate policy (a ++ b)).openSegment =
      (ofTemplate policy b).openSegment.map (Segment.shift a.byteSize) := by
    rw [openSegment, happend]
    exact openSegment_append_shift _ hclosed
  refine ⟨ofTemplate policy a, (prepare_eq_ok_iff policy a _).mpr ⟨rfl, fun _ => hclosed⟩, ?_, ?_⟩
  · intro e
    simp only [prepare_eq_error_iff, hopen, Option.map_eq_some_iff]
    constructor
    · rintro ⟨hp, _, ⟨g, hg, rfl⟩, rfl⟩
      exact ⟨⟨g.span, g.content⟩, ⟨hp, g, hg, rfl⟩, rfl⟩
    · rintro ⟨_, ⟨hp, g, hg, rfl⟩, rfl⟩
      exact ⟨hp, g.shift a.byteSize, ⟨g, hg, rfl⟩, rfl⟩
  · intro u hu
    obtain ⟨rfl, hnone⟩ := (prepare_eq_ok_iff policy b u).mp hu
    rw [← happend]
    refine (prepare_eq_ok_iff policy (a ++ b) _).mpr ⟨rfl, fun hp => ?_⟩
    rw [hopen, hnone hp, Option.map_none]

theorem prepare_append_behind_empty_literal :
    Even ("é('it''s', ''".toList.count quote) ∧
    ¬ ("é('it''s', ''".toList.getLast? = some quote ∧ ", '%d".toList.head? = some quote) ∧
    prepare .reject ("é('it''s', ''".toList ++ ", '%d".toList) =
      .error ⟨⟨16, 19⟩, "%d".toList⟩ := by
  have heven : Even ("é('it''s', ''".toList.count quote) := by decide
  have hends : ¬ ("é('it''s', ''".toList.getLast? = some quote ∧
      ", '%d".toList.head? = some quote) := by decide
  obtain ⟨s, -, herror, -⟩ := prepare_append .reject heven hends
  exact ⟨heven, hends, (herror _).mpr ⟨⟨⟨2, 5⟩, "%d".toList⟩, by decide, by decide⟩⟩

end Statement
end SqlTemplate
