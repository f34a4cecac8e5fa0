import SqlTemplate.Proofs.Composition

/-! # The number of quotes in front of a character tells where it stands

With an even number of them in front, a character that is no quote stands outside all literals, and
with an odd number inside one, however many doubled quotes and empty literals there are before it.
So the markers with an odd number of quotes in front are the ones that make patterns.
-/
namespace SqlTemplate

namespace Token

variable {policy : Policy}

theorem mem_doubleQuotes_of_ne {c : Char} (hc : c ≠ quote) (d : Text) :
    c ∈ doubleQuotes d ↔ c ∈ d := by
  induction d with
  | nil => rfl
  | cons x d ih =>
    by_cases hx : x = quote
    · subst hx
      simp [hc, ih]
    · simp [doubleQuotes_cons_of_ne hx, ih]

theorem mem_source_iff_of_ne {c : Char} (hc : c ≠ quote) (g : Segment) :
    c ∈ g.source ↔ c ∈ g.content := by
  cases h : g.terminated <;>
    simp [Segment.source, Segment.token, h, source, hc, mem_doubleQuotes_of_ne hc]

/-- Quotes stand in pairs before any other character of a body. -/
theorem even_count_quote_of_body {d w u r : Text} {c : Char} (hc : c ≠ quote) (hw : c ∉ w)
    (h : doubleQuotes d ++ w = u ++ c :: r) : Even (u.count quote) := by
  induction d generalizing u with
  | nil =>
    rw [doubleQuotes_nil, List.nil_append] at h
    simp [h] at hw
  | cons x d ih =>
    by_cases hx : x = quote
    · subst hx
      rw [doubleQuotes_quote_cons] at h
      match u, h with
      | [], h => exact absurd (List.cons.inj h).1.symm hc
      | [_], h => exact absurd (List.cons.inj (List.cons.inj h).2).1.symm hc
      | y :: z :: u, h =>
        simp only [List.cons_append, List.cons.injEq] at h
        obtain ⟨rfl, rfl, h⟩ := h
        simpa [Nat.even_add_one] using ih h
    · rw [doubleQuotes_cons_of_ne hx] at h
      match u, h with
      | [], _ => simp
      | y :: u, h =>
        simp only [List.cons_append, List.cons.injEq] at h
        obtain ⟨rfl, h⟩ := h
        simpa [List.count_cons_of_ne hx] using ih h

theorem odd_count_quote_of_source {t : Token} (ht : t.isText = false) {u r : Text} {c : Char}
    (hc : c ≠ quote) (h : t.source = u ++ c :: r) : Odd (u.count quote) := by
  obtain ⟨d, w, hw, hs⟩ : ∃ d w, c ∉ w ∧ t.source = quote :: (doubleQuotes d ++ w) := by
    cases t with
    | text w => simp [isText] at ht
    | literal d => exact ⟨d, [quote], by simpa using hc, rfl⟩
    | unterminated d => exact ⟨d, [], by simp, by simp [source]⟩
  rw [hs] at h
  cases u with
  | nil => exact absurd (List.cons.inj h).1.symm hc
  | cons y u =>
    obtain ⟨rfl, hbody⟩ := List.cons.inj h
    have heven := even_count_quote_of_body hc hw hbody
    rw [List.count_cons_self]
    exact heven.add_one

theorem contains_eq_false_of_mem {i j : Nat} {ts : List Token} {g : Segment}
    (h : g ∈ segmentsFrom policy j ts) (hij : i < j) : g.span.contains i = false := by
  have hle := le_start_of_mem h
  simp only [Span.contains, Bool.and_eq_false_iff, decide_eq_false_iff_not]
  omega

theorem exists_segment_iff_odd_of_source {t : Token} (ht : t.isText = false) {u r : Text} {c : Char}
    (hc : c ≠ quote) (h : t.source = u ++ c :: r) (policy : Policy) (i : Nat) (ts : List Token) :
    (∃ g ∈ segmentsFrom policy i (t :: ts), g.span.contains (i + u.byteSize) = true) ↔
      Odd (u.count quote) := by
  obtain ⟨g, -, hspan, -, hsegs⟩ := segmentsFrom_cons_of_quoted ht policy i ts
  have hodd := odd_count_quote_of_source ht hc h
  have hin := contains_of_source_eq h i
  exact iff_of_true ⟨g, by simp [hsegs], by rw [hspan, hin]⟩ hodd

/-- A character that is no quote is inside a segment if the quotes in front of it are odd in
number. Text in front has none, and a closed literal an even number of them. -/
theorem Apart.exists_segment_iff_odd {ts : List Token} (h : Apart ts) (policy : Policy) (i : Nat)
    {u v : Text} {c : Char} (hr : render ts = u ++ c :: v) (hc : c ≠ quote) :
    (∃ g ∈ segmentsFrom policy i ts, g.span.contains (i + u.byteSize) = true) ↔
      Odd (u.count quote) := by
  induction h generalizing i u with
  | nil => simp at hr
  | @text w ts _ hq _ ih =>
    rw [segmentsFrom_text]
    rcases Text.append_eq_append_cons hr with ⟨r, rfl⟩ | ⟨u', rfl, hr'⟩
    · -- the segments all begin behind the text that holds the character
      have hzero : u.count quote = 0 := List.count_eq_zero.mpr fun hu => hq (by simp [hu])
      have hpos := c.utf8Size_pos
      have hlt : i + u.byteSize < i + Text.byteSize (u ++ c :: r) := by
        simp only [Text.byteSize_append, Text.byteSize_cons]
        omega
      simp only [hzero, Nat.not_odd_zero, iff_false]
      rintro ⟨g, hg, hcontains⟩
      simp [contains_eq_false_of_mem hg hlt] at hcontains
    · have hzero : w.count quote = 0 := List.count_eq_zero.mpr hq
      have hrest := ih (i + w.byteSize) hr'
      simpa [source, hzero, Nat.add_assoc] using hrest
  | @literal d ts _ _ ih =>
    rcases Text.append_eq_append_cons hr with ⟨r, hs⟩ | ⟨u', rfl, hr'⟩
    · exact exists_segment_iff_odd_of_source rfl hc hs policy i ts
    · obtain ⟨g, -, hspan, -, hsegs⟩ :=
        segmentsFrom_cons_of_quoted (t := .literal d) rfl policy i ts
      have heven := even_count_quote_literal d
      have hrest := ih (i + (Token.literal d).source.byteSize) hr'
      have hout : g.span.contains (i + (Token.literal d).source.byteSize + u'.byteSize) = false := by
        simp only [hspan, Span.contains, Bool.and_eq_false_iff, decide_eq_false_iff_not]
        omega
      rw [hsegs, List.count_append, Nat.odd_add', ← hrest, Text.byteSize_append, ← Nat.add_assoc]
      simp only [List.mem_cons, exists_eq_or_imp, hout, Bool.false_eq_true, false_or, heven,
        iff_true]
  | @unterminated d =>
    rw [render_cons, render_nil, List.append_nil] at hr
    exact exists_segment_iff_odd_of_source rfl hc hr policy i []

end Token

/-- In the span there is a marker that an odd number of quotes precedes in the text. -/
def MarkerInside (t : Text) (s : Span) : Prop :=
  ∃ u v, t = u ++ marker :: v ∧ Odd (u.count quote) ∧ s.contains u.byteSize = true

instance (t : Text) (s : Span) : Decidable (MarkerInside t s) :=
  decidable_of_iff (∃ k < t.length, t[k]? = some marker ∧ Odd ((t.take k).count quote) ∧
      s.contains (Text.byteSize (t.take k)) = true) <| by
    constructor
    · rintro ⟨k, hk, hmark, hodd, hin⟩
      obtain ⟨_, hget⟩ := List.getElem?_eq_some_iff.mp hmark
      refine ⟨t.take k, t.drop (k + 1), ?_, hodd, hin⟩
      rw [← hget, ← List.drop_eq_getElem_cons hk, List.take_append_drop]
    · rintro ⟨u, v, rfl, hodd, hin⟩
      exact ⟨u.length, by simp, by simp, by simpa using hodd, by simpa using hin⟩

namespace Statement

variable (policy : Policy) (t : Text)

theorem exists_segment_iff_odd {u v : Text} {c : Char} (ht : t = u ++ c :: v) (hc : c ≠ quote) :
    (∃ g ∈ (ofTemplate policy t).segments, g.span.contains u.byteSize = true) ↔
      Odd (u.count quote) := by
  have hr : Token.render (Token.scan t) = u ++ c :: v := by rw [Token.render_scan, ht]
  have h := (Token.apart_scan t).exists_segment_iff_odd policy 0 hr hc
  rwa [Nat.zero_add] at h

theorem marker_mem_content_iff {g : Segment} (hg : g ∈ (ofTemplate policy t).segments) :
    marker ∈ g.content ↔ MarkerInside t g.span := by
  have hne : marker ≠ quote := by decide
  have hslice := isSlice_of_mem_segments policy t hg
  rw [← Token.mem_source_iff_of_ne hne]
  constructor
  · intro hm
    obtain ⟨u, v, ht, hin⟩ := hslice.exists_of_mem hm
    exact ⟨u, v, ht, (exists_segment_iff_odd policy t ht hne).mp ⟨g, hg, hin⟩, hin⟩
  · rintro ⟨u, v, ht, -, hin⟩
    exact hslice.mem_of_contains ht hin

theorem length_patterns_eq_countP :
    (ofTemplate policy t).patterns.length = (ofTemplate policy t).segments.countP
      fun g => (g.terminated = true ∨ policy = .pattern) ∧ MarkerInside t g.span := by
  have hkind : ∀ g ∈ (ofTemplate policy t).segments, decide (g.kind = .pattern) =
      decide ((g.terminated = true ∨ policy = .pattern) ∧ MarkerInside t g.span) := by
    intro g hg
    rw [decide_eq_decide, Token.kind_eq_pattern_iff hg, marker_mem_content_iff policy t hg,
      and_comm]
  change (((ofTemplate policy t).segments.filter fun g => g.kind = .pattern).map _).length = _
  rw [List.length_map, ← List.countP_eq_length_filter]
  exact List.countP_congr fun g hg => by simpa using congrArg (· = true) (hkind g hg)

theorem isParameterized_iff :
    (ofTemplate policy t).isParameterized = true ↔ ∃ g ∈ (ofTemplate policy t).segments,
      (g.terminated = true ∨ policy = .pattern) ∧ MarkerInside t g.span := by
  have hpos : (ofTemplate policy t).isParameterized = true ↔
      0 < (ofTemplate policy t).patterns.length := by
    simp [isParameterized, List.length_pos_iff]
  rw [hpos, length_patterns_eq_countP, List.countP_pos_iff]
  simp only [decide_eq_true_eq]

theorem isSome_openSpan_iff_odd :
    (ofTemplate policy t).openSpan.isSome = true ↔ Odd (t.count quote) := by
  have hnone := openSegment_ofTemplate_eq_none_iff policy t
  change ((ofTemplate policy t).openSegment.map Segment.span).isSome = true ↔ _
  rw [Option.isSome_map, ← Nat.not_even_iff_odd, ← hnone, Option.isSome_iff_ne_none]

variable {t}

/-- The SQL of a closed template has no open literal either, so that text behind it stays text. -/
theorem even_count_quote_sql (h : Even (t.count quote)) :
    Even ((ofTemplate policy t).sql.count quote) := by
  rw [sql_ofTemplate, ← Token.render_map_parameterize, ← Nat.not_odd_iff_even,
    (Token.apart_parameterized policy t).odd_count_quote_iff]
  rintro ⟨c, hc⟩
  have hscan := ((Token.unterminated_mem_map_parameterize_iff c _).mp hc).1
  exact Token.not_mem_scan_of_even h c hscan

theorem sql_append_marker (h : Even (t.count quote)) (r : Text) :
    (ofTemplate policy (t ++ marker :: r)).sql =
      (ofTemplate policy t).sql ++ marker :: (ofTemplate policy r).sql := by
  have hhead : (marker :: r).head? ≠ some quote := by
    rw [List.head?_cons]
    decide
  have hfront := ofTemplate_append policy h (fun hab => hhead hab.2)
  have hmarker := ofTemplate_append policy (a := [marker]) (b := r) (by decide)
    (fun hab => absurd hab.1 (by decide))
  have hself : (ofTemplate policy [marker]).sql = [marker] := by
    cases policy <;> decide
  calc (ofTemplate policy (t ++ marker :: r)).sql
      = (ofTemplate policy t).sql ++ (ofTemplate policy ([marker] ++ r)).sql := by
        rw [hfront, List.singleton_append]
    _ = (ofTemplate policy t).sql ++ marker :: (ofTemplate policy r).sql := by
        rw [hmarker, hself, List.singleton_append]

/-- Counting quotes tells which characters are inside literals, whether one is left open, which
segments are patterns, and which markers the SQL keeps as text. -/
theorem quotes_in_front_decide {t : Text} {s : Statement} (h : prepare policy t = .ok s) :
    (∀ u c v, t = u ++ c :: v → c ≠ quote →
      ((∃ g ∈ s.segments, g.span.contains (Text.byteSize u) = true) ↔ Odd (u.count quote))) ∧
    (s.openSpan.isSome = true ↔ Odd (t.count quote)) ∧
    (s.patterns.length = s.segments.countP fun g =>
      (g.terminated = true ∨ policy = .pattern) ∧ MarkerInside t g.span) ∧
    (s.isParameterized = true ↔ ∃ g ∈ s.segments,
      (g.terminated = true ∨ policy = .pattern) ∧ MarkerInside t g.span) ∧
    ∀ u v, t = u ++ marker :: v → Even (u.count quote) →
      s.sql = (ofTemplate policy u).sql ++ marker :: (ofTemplate policy v).sql ∧
        Even ((ofTemplate policy u).sql.count quote) := by
  obtain rfl := eq_ofTemplate_of_prepare policy t h
  refine ⟨fun u c v ht hc => exists_segment_iff_odd policy t ht hc,
    isSome_openSpan_iff_odd policy t, length_patterns_eq_countP policy t,
    isParameterized_iff policy t, ?_⟩
  rintro u v rfl heven
  exact ⟨sql_append_marker policy heven v, even_count_quote_sql policy heven⟩

theorem quotes_in_front_decide_of_open_literal :
    ∃ s, prepare .verbatim "é'a''%' % 'b%".toList = .ok s ∧ s.openSpan.isSome = true ∧
      s.patterns.length = 1 ∧ s.sql = "é? ".toList ++ marker :: " 'b%".toList := by
  have hs : prepare .verbatim "é'a''%' % 'b%".toList = .ok ⟨"é? % 'b%".toList, ["a'%".toList],
      [⟨.pattern, ⟨2, 8⟩, "a'%".toList, true⟩, ⟨.plain, ⟨11, 14⟩, "b%".toList, false⟩],
      some ⟨11, 14⟩⟩ := by decide +kernel
  obtain ⟨-, hopen, hlength, -, hmarker⟩ := quotes_in_front_decide .verbatim hs
  refine ⟨_, hs, hopen.mpr (by decide), hlength.trans (by decide +kernel), ?_⟩
  have hsql := (hmarker "é'a''%' ".toList " 'b%".toList (by decide) (by decide)).1
  exact hsql.trans (by decide +kernel)

end Statement
end SqlTemplate
