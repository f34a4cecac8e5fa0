import SqlTemplate.Proofs.SegmentLayout

/-! # The parts of a statement agree with each other and with the template

One pass over the tokens of a template builds all parts of its statement. The SQL is the template
with the slices of the pattern segments overwritten, and the patterns are what stood there.
-/
namespace SqlTemplate

namespace Token

variable {policy : Policy}

theorem byteSize_emitted_lt {t : Token} (h : t.kind? policy = some .pattern) :
    (t.emitted policy).byteSize < t.source.byteSize := by
  have hone : placeholder.utf8Size = 1 := rfl
  have hquote := quote.utf8Size_pos
  have hbody {c : Text} (hc : Kind.classify c = .pattern) : 0 < (doubleQuotes c).byteSize := by
    refine Text.byteSize_pos fun hnil => ?_
    rw [doubleQuotes_eq_nil_iff.mp hnil] at hc
    simp [Kind.classify] at hc
  rw [emitted, if_pos h, Text.byteSize_cons, Text.byteSize_nil, hone]
  cases t with
  | text w => simp [kind?] at h
  | literal c =>
    have hpos := hbody (by simpa [kind?] using h)
    simp only [source, Text.byteSize_append, Text.byteSize_cons, List.cons_append]
    omega
  | unterminated c =>
    by_cases hp : policy = .pattern
    · have hpos := hbody (by simpa [kind?, hp] using h)
      simp only [source, Text.byteSize_cons]
      omega
    · simp [kind?, hp] at h

theorem byteSize_emitted_le (policy : Policy) (t : Token) :
    (t.emitted policy).byteSize ≤ t.source.byteSize := by
  by_cases h : t.kind? policy = some .pattern
  · exact (byteSize_emitted_lt h).le
  · simp [emitted, h]

theorem byteSize_flatMap_emitted_le (policy : Policy) (ts : List Token) :
    Text.byteSize (ts.flatMap (emitted policy)) ≤ (render ts).byteSize := by
  induction ts with
  | nil => simp
  | cons t ts ih =>
    have ht := byteSize_emitted_le policy t
    simp only [List.flatMap_cons, render_cons, Text.byteSize_append]
    omega

theorem byteSize_flatMap_emitted_lt {ts : List Token}
    (h : ∃ t ∈ ts, t.kind? policy = some .pattern) :
    Text.byteSize (ts.flatMap (emitted policy)) < (render ts).byteSize := by
  obtain ⟨t, ht, hk⟩ := h
  obtain ⟨front, rest, rfl⟩ := List.append_of_mem ht
  have hfront := byteSize_flatMap_emitted_le policy front
  have hrest := byteSize_flatMap_emitted_le policy rest
  have hlt := byteSize_emitted_lt hk
  simp only [render, List.flatMap_append, List.flatMap_cons, Text.byteSize_append] at hfront hrest ⊢
  omega

def patternSpans (gs : List Segment) : List Span :=
  (gs.filter fun g => g.kind = .pattern).map Segment.span

theorem patternSpans_cons_pattern {g : Segment} (hg : g.kind = .pattern) (gs : List Segment) :
    patternSpans (g :: gs) = g.span :: patternSpans gs := by
  simp [patternSpans, hg]

theorem patternSpans_cons_plain {g : Segment} (hg : g.kind = .plain) (gs : List Segment) :
    patternSpans (g :: gs) = patternSpans gs := by
  simp [patternSpans, hg]

theorem le_start_of_mem_patternSpans (policy : Policy) (i : Nat) (ts : List Token) :
    ∀ s ∈ (patternSpans (segmentsFrom policy i ts)).head?, i ≤ s.start := by
  intro s hs
  obtain ⟨g, hg, rfl⟩ := List.mem_map.mp (List.mem_of_mem_head? hs)
  exact le_start_of_mem (List.mem_filter.mp hg).1

/-- What the tokens leave in the statement is their source with the patterns overwritten. -/
theorem flatMap_emitted_eq_overwrite (policy : Policy) (i : Nat) (ts : List Token) :
    ts.flatMap (emitted policy) =
      Text.overwrite [placeholder] i (patternSpans (segmentsFrom policy i ts)) (render ts) := by
  induction ts generalizing i with
  | nil => rfl
  | cons t ts ih =>
    rw [List.flatMap_cons, render_cons, ih (i + t.source.byteSize)]
    have hnext := le_start_of_mem_patternSpans policy (i + t.source.byteSize) ts
    have hcopy := Text.overwrite_append [placeholder] hnext (render ts)
    rcases isText_cases t with ⟨w, rfl⟩ | ht
    · exact hcopy.symm
    · obtain ⟨g, -, hspan, hkind, hsegs⟩ := segmentsFrom_cons_of_quoted ht policy i ts
      rw [hsegs]
      cases hg : g.kind with
      | pattern =>
        rw [patternSpans_cons_pattern hg, hspan, Text.overwrite_slice, emitted,
          if_pos (by rw [hkind, hg])]
      | plain =>
        rw [patternSpans_cons_plain hg, hcopy, emitted, if_neg (by simp [hkind, hg])]

end Token

namespace Statement

/-- The statement tells of a template where its literals are and what becomes of them. -/
structure Describes (s : Statement) (policy : Policy) (t : Text) : Prop where
  /-- Each segment is a slice of the template that starts with a quote. -/
  slice : ∀ g ∈ s.segments, t.IsSlice g.span g.source ∧ (∃ r, g.source = quote :: r) ∧
    g.span.start < g.span.stop ∧ g.span.stop ≤ t.byteSize
  apart : s.segments.IsChain fun g h => g.span.stop < h.span.start
  /-- A character that begins outside all segments is no quote. -/
  outside : ∀ (u : Text) (c : Char) (v : Text), t = u ++ c :: v →
    (∀ g ∈ s.segments, g.span.contains u.byteSize = false) → c ≠ quote
  terminated : ∀ g ∈ s.segments.dropLast, g.terminated = true
  openSpan_eq_some_iff : ∀ p, s.openSpan = some p ↔
    ∃ g, s.segments.getLast? = some g ∧ g.terminated = false ∧ g.span = p
  openSpan_stop : ∀ p, s.openSpan = some p → p.stop = t.byteSize
  kind_eq_pattern_iff : ∀ g ∈ s.segments,
    g.kind = .pattern ↔ marker ∈ g.content ∧ (g.terminated = true ∨ policy = .pattern)
  patterns_eq : s.patterns = (s.segments.filter fun g => g.kind = .pattern).map Segment.content
  sql_eq_overwrite : s.sql = Text.overwrite [placeholder] 0
    ((s.segments.filter fun g => g.kind = .pattern).map Segment.span) t
  sql_eq_self : s.patterns = [] → s.sql = t
  sql_shorter : s.patterns ≠ [] → s.sql.byteSize < t.byteSize

variable (policy : Policy) (t : Text)

theorem segments_ofTemplate :
    (ofTemplate policy t).segments = Token.segmentsFrom policy 0 (Token.scan t) := rfl

theorem sql_ofTemplate :
    (ofTemplate policy t).sql = (Token.scan t).flatMap (Token.emitted policy) := rfl

theorem patterns_ofTemplate_eq_filterMap :
    (ofTemplate policy t).patterns = (Token.scan t).filterMap (Token.pattern? policy) :=
  Token.patterns_segmentsFrom policy 0 _

theorem isSlice_of_mem_segments {g : Segment} (hg : g ∈ (ofTemplate policy t).segments) :
    t.IsSlice g.span g.source := by
  have h := Token.isSlice_of_mem_segmentsFrom (u := []) hg
  rwa [List.nil_append, Token.render_scan] at h

theorem find?_open_front {front : List Segment} {g : Segment}
    (h : (ofTemplate policy t).segments = front ++ [g]) :
    front.find? (fun g => !g.terminated) = none := by
  rw [List.find?_eq_none]
  intro f hf
  have hw := Token.wellFormed_scan t
  have hmem : f ∈ (ofTemplate policy t).segments.dropLast := by
    rw [h, List.dropLast_concat]
    exact hf
  have hclosed := hw.terminated_of_mem_dropLast hmem
  simp [hclosed]

/-- The segment that the end of the template leaves open. -/
def openSegment (s : Statement) : Option Segment := s.segments.find? fun g => !g.terminated

theorem openSegment_ofTemplate_eq_some_iff (g : Segment) :
    (ofTemplate policy t).openSegment = some g ↔
      (ofTemplate policy t).segments.getLast? = some g ∧ g.terminated = false := by
  have hw := Token.wellFormed_scan t
  constructor
  · intro hg
    have hopen : g.terminated = false := by simpa using List.find?_some hg
    exact ⟨(hw.stop_eq_of_open (List.mem_of_find?_eq_some hg) hopen).1, hopen⟩
  · rintro ⟨hg, hopen⟩
    obtain ⟨front, hfront⟩ := List.getLast?_eq_some_iff.mp hg
    rw [openSegment, hfront, List.find?_append, find?_open_front policy t hfront]
    simp [hopen]

theorem openSegment_of_segments_eq {front : List Segment} {g : Segment}
    (hg : (ofTemplate policy t).segments = front ++ [g]) (hopen : g.terminated = false) :
    (ofTemplate policy t).openSegment = some g := by
  rw [openSegment_ofTemplate_eq_some_iff, hg, List.getLast?_concat]
  exact ⟨rfl, hopen⟩

theorem openSpan_ofTemplate_eq_some_iff (p : Span) :
    (ofTemplate policy t).openSpan = some p ↔
      ∃ g, (ofTemplate policy t).segments.getLast? = some g ∧ g.terminated = false ∧ g.span = p := by
  change (ofTemplate policy t).openSegment.map Segment.span = some p ↔ _
  simp only [Option.map_eq_some_iff, openSegment_ofTemplate_eq_some_iff, and_assoc]

/-- Takes in a literal behind the tokens seen so far. -/
def pushLiteral (policy : Policy) (s : Statement) (p : Token × Span) (content : Text)
    (terminated : Bool) : Statement :=
  let kind : Kind := match Kind.classify content with
    | .pattern => if terminated ∨ policy = .pattern then .pattern else .plain
    | .plain => .plain
  let segments := s.segments ++ [⟨kind, p.2, content, terminated⟩]
  match kind with
  | .pattern => ⟨s.sql ++ [placeholder], s.patterns ++ [content], segments, s.openSpan⟩
  | .plain => ⟨s.sql ++ p.1.source, s.patterns, segments, s.openSpan⟩

/-- One step of the pass: takes in a token behind those seen so far. -/
def push (policy : Policy) (s : Statement) (p : Token × Span) : Statement :=
  match p.1 with
  | .text slice => { s with sql := s.sql ++ slice }
  | .literal content => s.pushLiteral policy p content true
  | .unterminated content => { s.pushLiteral policy p content false with openSpan := some p.2 }

/-- What some tokens add to a statement. -/
def collect (policy : Policy) (ps : List (Token × Span)) : Statement where
  sql := (ps.map Prod.fst).flatMap (Token.emitted policy)
  patterns := ((ps.filterMap (Token.segment? policy)).filter fun g => g.kind = .pattern).map
    Segment.content
  segments := ps.filterMap (Token.segment? policy)
  openSpan := ((ps.filterMap (Token.segment? policy)).reverse.find? fun g => !g.terminated).map
    Segment.span

/-- A statement for the tokens of `s` and those of `u` behind them. -/
def append (s u : Statement) : Statement :=
  ⟨s.sql ++ u.sql, s.patterns ++ u.patterns, s.segments ++ u.segments, u.openSpan.or s.openSpan⟩

theorem append_assoc (s u v : Statement) : (s.append u).append v = s.append (u.append v) := by
  simp [append, Option.or_assoc]

theorem collect_append (ps qs : List (Token × Span)) :
    collect policy (ps ++ qs) = (collect policy ps).append (collect policy qs) := by
  simp [collect, append, List.find?_append, Option.map_or]

theorem push_eq_append (s : Statement) (p : Token × Span) :
    s.push policy p = s.append (collect policy [p]) := by
  obtain ⟨t, span⟩ := p
  cases t with
  | text slice =>
    simp [push, collect, append, List.filterMap_cons, Token.segment?, Token.emitted, Token.kind?,
      Token.source]
  | literal content =>
    cases h : Kind.classify content <;>
      simp [push, pushLiteral, collect, append, Token.segment?, Token.emitted, Token.kind?, h]
  | unterminated content =>
    cases h : Kind.classify content <;> by_cases hp : policy = .pattern <;>
      simp [push, pushLiteral, collect, append, Token.segment?, Token.emitted, Token.kind?, h, hp]

theorem foldl_push (s : Statement) (ps : List (Token × Span)) :
    ps.foldl (push policy) s = s.append (collect policy ps) := by
  induction ps generalizing s with
  | nil => simp [collect, append]
  | cons p ps ih =>
    rw [List.foldl_cons, ih, push_eq_append, append_assoc, ← collect_append, List.singleton_append]

theorem foldl_push_placed :
    (Token.placed t).foldl (push policy) ⟨[], [], [], none⟩ = ofTemplate policy t := by
  have hopen : (collect policy (Token.placed t)).openSpan = (ofTemplate policy t).openSpan := by
    change (((ofTemplate policy t).segments.reverse.find? _).map _) =
      ((ofTemplate policy t).segments.find? _).map _
    rcases List.eq_nil_or_concat' (ofTemplate policy t).segments with hnil | ⟨front, g, hfront⟩
    · rw [hnil]
      rfl
    · have hnone := find?_open_front policy t hfront
      have hnone' : front.reverse.find? (fun g => !g.terminated) = none := by
        rw [List.find?_eq_none] at hnone ⊢
        simpa using hnone
      rw [hfront, List.reverse_append, List.find?_append, List.find?_append, hnone, hnone']
      simp
  have hsql : (collect policy (Token.placed t)).sql = (ofTemplate policy t).sql := by
    rw [collect, Token.placed, Token.map_fst_place, sql_ofTemplate]
  rw [foldl_push]
  simp only [append, List.nil_append, Option.or_none, hsql, hopen]
  rfl

theorem exists_pattern_token (h : (ofTemplate policy t).patterns ≠ []) :
    ∃ u ∈ Token.scan t, u.kind? policy = some .pattern := by
  obtain ⟨c, hc⟩ := List.exists_mem_of_ne_nil _ h
  obtain ⟨g, hg, -⟩ := List.mem_map.mp hc
  obtain ⟨hseg, hkind⟩ := List.mem_filter.mp hg
  obtain ⟨hmem, hk⟩ := Token.token_of_mem_segmentsFrom hseg
  exact ⟨g.token, hmem, by simpa [hk] using hkind⟩

/-- The statement that one pass over the tokens builds describes the template. -/
theorem pass_describes_template :
    (Token.placed t).foldl (push policy) ⟨[], [], [], none⟩ = ofTemplate policy t ∧
      (ofTemplate policy t).Describes policy t := by
  have hw := Token.wellFormed_scan t
  have hsql : (ofTemplate policy t).sql = Text.overwrite [placeholder] 0
      (Token.patternSpans (ofTemplate policy t).segments) t := by
    have h := Token.flatMap_emitted_eq_overwrite policy 0 (Token.scan t)
    rwa [Token.render_scan] at h
  have hslice (g : Segment) (hg : g ∈ (ofTemplate policy t).segments) :
      t.IsSlice g.span g.source := by
    have h := Token.isSlice_of_mem_segmentsFrom (u := []) hg
    rwa [List.nil_append, Token.render_scan] at h
  refine ⟨foldl_push_placed policy t, ?_, hw.segments_apart 0, ?_,
    fun g hg => hw.terminated_of_mem_dropLast hg, openSpan_ofTemplate_eq_some_iff policy t, ?_,
    fun g hg => Token.kind_eq_pattern_iff hg, rfl, hsql, ?_, ?_⟩
  · intro g hg
    have hg' := hslice g hg
    exact ⟨hg', g.source_eq_quote_cons, hg'.start_lt_stop g.source_ne_nil, hg'.stop_le⟩
  · rintro u c v ht hout rfl
    obtain ⟨g, hg, hc⟩ := hw.exists_segment_of_quote policy 0
      (by rw [Token.render_scan, ht])
    rw [Nat.zero_add, hout g hg] at hc
    exact Bool.false_ne_true hc
  · intro p hp
    obtain ⟨g, hlast, hopen, rfl⟩ := (openSpan_ofTemplate_eq_some_iff policy t p).mp hp
    have h := (hw.stop_eq_of_open (List.mem_of_getLast? hlast) hopen).2
    rwa [Nat.zero_add, Token.render_scan] at h
  · intro hnone
    have hspans : Token.patternSpans (ofTemplate policy t).segments = [] := by
      rw [Token.patternSpans, List.map_eq_nil_iff]
      exact List.map_eq_nil_iff.mp hnone
    rw [hsql, hspans, Text.overwrite]
  · intro hsome
    have h := Token.byteSize_flatMap_emitted_lt (exists_pattern_token policy t hsome)
    rwa [Token.render_scan] at h

theorem prepare_eq_error_iff (e : OpenLiteral) :
    prepare policy t = .error e ↔ policy = .reject ∧
      ∃ g, (ofTemplate policy t).openSegment = some g ∧ e = ⟨g.span, g.content⟩ := by
  cases policy with
  | verbatim | pattern => simp [prepare]
  | reject =>
    cases h : (ofTemplate .reject t).openSegment with
    | none =>
      rw [openSegment] at h
      simp [prepare, h]
    | some g =>
      rw [openSegment] at h
      simp [prepare, h, eq_comm]

theorem prepare_eq_ok_iff (s : Statement) :
    prepare policy t = .ok s ↔
      s = ofTemplate policy t ∧ (policy = .reject → s.openSegment = none) := by
  cases policy with
  | verbatim | pattern => simp [prepare, eq_comm]
  | reject =>
    constructor
    · intro h
      cases ho : (ofTemplate .reject t).openSegment with
      | none =>
        rw [openSegment] at ho
        simp only [prepare, ho, Except.ok.injEq] at h
        subst h
        exact ⟨rfl, fun _ => ho⟩
      | some g =>
        rw [openSegment] at ho
        simp [prepare, ho] at h
    · rintro ⟨rfl, hnone⟩
      have ho := hnone rfl
      rw [openSegment] at ho
      simp [prepare, ho]

/-- A policy decides whether a template is refused, not what its statement is then. -/
theorem eq_ofTemplate_of_prepare {s : Statement} (h : prepare policy t = .ok s) :
    s = ofTemplate policy t :=
  ((prepare_eq_ok_iff policy t s).mp h).1

end Statement

end SqlTemplate
