import SqlTemplate.Proofs.QuoteParity
import SqlTemplate.Proofs.Reparsing
import SqlTemplate.Proofs.TemplateRecovery
import SqlTemplate.Settings

/-! # The policies agree except on a literal that is left open

Closed literals and text come out the same under every policy. What is open at the end stands last,
so the statements of a template differ in their last segment at most.
-/
namespace SqlTemplate

namespace Token

variable {policy : Policy}

theorem segment?_of_ne_pattern (h : policy ≠ .pattern) :
    segment? policy = segment? .verbatim := by
  funext p
  obtain ⟨t, s⟩ := p
  cases t <;> simp [segment?, h]

theorem emitted_of_ne_pattern (h : policy ≠ .pattern) : emitted policy = emitted .verbatim := by
  funext t
  cases t <;> simp [emitted, kind?, h]

theorem segmentsFrom_of_closed {ts : List Token} (h : ∀ c, .unterminated c ∉ ts)
    (policy policy' : Policy) (i : Nat) : segmentsFrom policy i ts = segmentsFrom policy' i ts := by
  apply List.filterMap_congr
  rintro ⟨t, s⟩ hp
  have ht : t ∈ ts := by
    rw [← map_fst_place i ts]
    exact List.mem_map_of_mem hp
  cases t with
  | text w => rfl
  | literal c => rfl
  | unterminated c => exact absurd ht (h c)

theorem flatMap_emitted_of_closed {ts : List Token} (h : ∀ c, .unterminated c ∉ ts)
    (policy policy' : Policy) : ts.flatMap (emitted policy) = ts.flatMap (emitted policy') := by
  apply List.flatMap_congr
  intro t ht
  cases t with
  | text w => rfl
  | literal c => rfl
  | unterminated c => exact absurd ht (h c)

/-- The segment of a token that stands where `front` ends. -/
def segmentAfter? (policy : Policy) (front : List Token) (u : Token) : Option Segment :=
  let start := (render front).byteSize
  segment? policy (u, ⟨start, start + u.source.byteSize⟩)

/-- The segment of a literal that is left open where `front` ends. -/
def openSegmentAfter (policy : Policy) (front : List Token) (c : Text) : Segment :=
  let start := (render front).byteSize
  ⟨if policy = .pattern then Kind.classify c else .plain,
    ⟨start, start + (unterminated c).source.byteSize⟩, c, false⟩

end Token

namespace Statement

variable (policy : Policy) (t : Text)

/-- Only `Policy.pattern` takes a template apart in a way of its own. -/
theorem ofTemplate_of_ne_pattern {policy : Policy} (h : policy ≠ .pattern) :
    ofTemplate policy t = ofTemplate .verbatim t := by
  rw [ofTemplate, Token.segment?_of_ne_pattern h, Token.emitted_of_ne_pattern h]
  rfl

theorem ofTemplate_of_even {t : Text} (h : Even (t.count quote)) (policy policy' : Policy) :
    ofTemplate policy t = ofTemplate policy' t := by
  have hclosed := Token.not_mem_scan_of_even h
  rw [← ofTokens_scan, ← ofTokens_scan, ofTokens, ofTokens,
    Token.segmentsFrom_of_closed hclosed policy policy',
    Token.flatMap_emitted_of_closed hclosed policy policy']

theorem scan_eq_append_of_odd {t : Text} (h : Odd (t.count quote)) :
    ∃ front c, Token.scan t = front ++ [.unterminated c] ∧ ∀ d, .unterminated d ∉ front := by
  have hopen := (Token.apart_scan t).odd_count_quote_iff
  rw [Token.render_scan] at hopen
  obtain ⟨c, hc⟩ := hopen.mp h
  obtain ⟨front, hfront, hclosed⟩ := (Token.apart_scan t).eq_append_of_mem hc
  exact ⟨front, c, hfront, hclosed⟩

/-- What stands in front of the last token does not depend on the policy if it is closed. -/
theorem ofTokens_append_singleton {front : List Token} (hclosed : ∀ d, .unterminated d ∉ front)
    (u : Token) :
    ofTokens policy (front ++ [u]) =
      ⟨front.flatMap (Token.emitted .verbatim) ++ u.emitted policy,
        front.filterMap (Token.pattern? .verbatim) ++ (u.pattern? policy).toList,
        Token.segmentsFrom .verbatim 0 front ++ (u.segmentAfter? policy front).toList,
        ((u.segmentAfter? policy front).filter fun g => !g.terminated).map Segment.span⟩ := by
  have hfront := Token.segmentsFrom_of_closed hclosed policy .verbatim 0
  have hsegments : Token.segmentsFrom policy 0 (front ++ [u]) =
      Token.segmentsFrom .verbatim 0 front ++ (u.segmentAfter? policy front).toList := by
    rw [Token.segmentsFrom_append, Nat.zero_add, hfront]
    cases u <;> rfl
  have hsql : (front ++ [u]).flatMap (Token.emitted policy) =
      front.flatMap (Token.emitted .verbatim) ++ u.emitted policy := by
    rw [List.flatMap_append, Token.flatMap_emitted_of_closed hclosed policy .verbatim,
      List.flatMap_singleton]
  have hpatterns : ((Token.segmentsFrom policy 0 (front ++ [u])).filter
      fun g => g.kind = .pattern).map Segment.content =
        front.filterMap (Token.pattern? .verbatim) ++ (u.pattern? policy).toList := by
    rw [Token.patterns_segmentsFrom, List.filterMap_append, ← Token.patterns_segmentsFrom policy 0,
      hfront, Token.patterns_segmentsFrom]
    cases h : u.pattern? policy <;> simp [h]
  have hterminated : (Token.segmentsFrom .verbatim 0 front).find? (fun g => !g.terminated) =
      none := by
    rw [List.find?_eq_none]
    intro g hg hopen
    refine hclosed g.content ((Token.unterminated_mem_iff .verbatim 0 front g.content).mpr
      ⟨g, hg, ?_, rfl⟩)
    simpa using hopen
  have hopen : (Token.segmentsFrom policy 0 (front ++ [u])).find? (fun g => !g.terminated) =
      (u.segmentAfter? policy front).filter fun g => !g.terminated := by
    rw [hsegments, List.find?_append, hterminated, Option.none_or]
    cases h : u.segmentAfter? policy front with
    | none => rfl
    | some g => cases hg : g.terminated <;> simp [Option.filter, hg]
  rw [ofTokens, hsql, hpatterns, hopen, hsegments]

theorem ofTemplate_of_scan_eq_append {t : Text} {front : List Token} {c : Text}
    (hscan : Token.scan t = front ++ [.unterminated c]) (hclosed : ∀ d, .unterminated d ∉ front) :
    ofTemplate policy t =
      ⟨front.flatMap (Token.emitted .verbatim) ++ (Token.unterminated c).emitted policy,
        front.filterMap (Token.pattern? .verbatim) ++
          ((Token.unterminated c).pattern? policy).toList,
        Token.segmentsFrom .verbatim 0 front ++ [Token.openSegmentAfter policy front c],
        some (Token.openSegmentAfter policy front c).span⟩ := by
  rw [← ofTokens_scan, hscan, ofTokens_append_singleton policy hclosed]
  rfl

/-- A literal opens wherever a closed template is followed by a quote and does not end with one. -/
theorem ofTemplate_append_unterminated {front : Text} (heven : Even (front.count quote))
    (hlast : front.getLast? ≠ some quote) (c : Text) :
    ofTemplate policy (front ++ (Token.unterminated c).source) =
      ofTokens policy (Token.scan front ++ [.unterminated c]) := by
  have hapart : Token.Apart (Token.scan front ++ Token.scan (Token.unterminated c).source) :=
    Token.apart_scan_append heven fun h => hlast h.1
  rw [Token.scan_unterminated] at hapart
  rw [← ofTemplate_render hapart, Token.render_append, Token.render_scan,
    Token.render_cons, Token.render_nil, List.append_nil]

/-- The statement `p` is `v`, but for the literal `g` that is open at the end of `v`, which is a
pattern of `p`. -/
structure Promotes (v p : Statement) (g : Segment) : Prop where
  segments : ∃ front, v.segments = front ++ [g] ∧
    p.segments = front ++ [{ g with kind := .pattern }]
  patterns : p.patterns = v.patterns ++ [g.content]
  sql : ∃ x, v.sql = x ++ g.source ∧ p.sql = x ++ [placeholder]
  openSpan : p.openSpan = v.openSpan

theorem eq_or_promotes_of_odd {t : Text} (h : Odd (t.count quote)) :
    ∃ g, (ofTemplate .verbatim t).LeavesOpen g ∧
      (ofTemplate .verbatim t).openSpan = some g.span ∧
      (marker ∉ g.content → ofTemplate .pattern t = ofTemplate .verbatim t) ∧
      (marker ∈ g.content → (ofTemplate .verbatim t).Promotes (ofTemplate .pattern t) g) := by
  obtain ⟨front, c, hscan, hclosed⟩ := scan_eq_append_of_odd h
  have hv := ofTemplate_of_scan_eq_append .verbatim hscan hclosed
  have hp := ofTemplate_of_scan_eq_append .pattern hscan hclosed
  have hlast : (ofTemplate .verbatim t).segments.getLast? =
      some (Token.openSegmentAfter .verbatim front c) := by
    rw [hv, List.getLast?_concat]
  refine ⟨_, ⟨hlast, rfl, rfl⟩, by rw [hv], fun hm => ?_, fun hm => ?_⟩
  · have hplain : Kind.classify c = .plain := if_neg hm
    rw [hp, hv]
    simp [Token.emitted, Token.kind?, Token.pattern?, Token.openSegmentAfter, hplain]
  · have hpattern : Kind.classify c = .pattern := if_pos hm
    rw [hp, hv]
    refine ⟨⟨_, rfl, ?_⟩, ?_, ⟨front.flatMap (Token.emitted .verbatim), ?_, ?_⟩, rfl⟩
    · simp [Token.openSegmentAfter, hpattern]
    · simp [Token.pattern?, Token.kind?, Token.content?, Token.openSegmentAfter, hpattern]
    · simp [Token.emitted, Token.kind?, Token.openSegmentAfter, Segment.source, Segment.token]
    · simp [Token.emitted, Token.kind?, hpattern]

theorem Promotes.map_segments {v p : Statement} {g : Segment} (h : v.Promotes p g) :
    p.segments.map (fun g => (g.span, g.content, g.terminated)) =
      v.segments.map (fun g => (g.span, g.content, g.terminated)) := by
  obtain ⟨front, hv, hp⟩ := h.segments
  simp [hv, hp]

theorem Promotes.ne {v p : Statement} {g : Segment} (h : v.Promotes p g) : p ≠ v := by
  rintro rfl
  have hlength := congrArg List.length h.patterns
  simp at hlength

/-- Since a statement tells its template, those of two templates are never the same. -/
theorem ofTemplate_eq_verbatim_iff (t t' : Text) :
    ofTemplate policy t = ofTemplate .verbatim t' ↔ t' = t ∧
      (policy ≠ .pattern ∨
        ∀ g, (ofTemplate .verbatim t).openSegment = some g → marker ∉ g.content) := by
  constructor
  · intro h
    have ht : t' = t := by
      rw [← template_ofTemplate .verbatim t', ← h, template_ofTemplate]
    subst ht
    refine ⟨rfl, ?_⟩
    by_cases hp : policy = .pattern
    · subst hp
      refine Or.inr fun g hg hm => ?_
      have hsome : (ofTemplate .verbatim t').openSpan.isSome = true := by
        change ((ofTemplate .verbatim t').openSegment.map Segment.span).isSome = true
        rw [hg]
        rfl
      obtain ⟨g', ⟨hlast, -, -⟩, -, -, hpromotes⟩ :=
        eq_or_promotes_of_odd ((isSome_openSpan_iff_odd .verbatim t').mp hsome)
      have hlast' := ((openSegment_ofTemplate_eq_some_iff .verbatim t' g).mp hg).1
      obtain rfl : g = g' := Option.some.inj (hlast'.symm.trans hlast)
      exact (hpromotes hm).ne h
    · exact Or.inl hp
  · rintro ⟨rfl, h⟩
    by_cases hp : policy = .pattern
    · subst hp
      have hplain := h.resolve_left (fun hne => hne rfl)
      rcases Nat.even_or_odd (t'.count quote) with heven | hodd
      · exact ofTemplate_of_even heven .pattern .verbatim
      · obtain ⟨g, ⟨hlast, -, hopen⟩, -, hsame, -⟩ := eq_or_promotes_of_odd hodd
        have hg := (openSegment_ofTemplate_eq_some_iff .verbatim t' g).mpr ⟨hlast, hopen⟩
        exact hsame (hplain g hg)
    · exact ofTemplate_of_ne_pattern t' hp

theorem exists_prepare_eq_error_iff (policy : Policy) :
    (∃ e, prepare policy t = .error e) ↔ policy = .reject ∧ Odd (t.count quote) := by
  have hnone := openSegment_ofTemplate_eq_none_iff policy t
  simp only [prepare_eq_error_iff]
  rw [← Nat.not_even_iff_odd, ← hnone, ← ne_eq, Option.ne_none_iff_exists']
  constructor
  · rintro ⟨e, hp, g, hg, -⟩
    exact ⟨hp, g, hg⟩
  · rintro ⟨hp, g, hg⟩
    exact ⟨_, hp, g, hg, rfl⟩

theorem prepare_eq_ok (h : ¬ (policy = .reject ∧ Odd (t.count quote))) :
    prepare policy t = .ok (ofTemplate policy t) := by
  cases hs : prepare policy t with
  | error e => exact absurd ((exists_prepare_eq_error_iff t policy).mp ⟨e, hs⟩) h
  | ok s => rw [eq_ofTemplate_of_prepare policy t hs]

/-- Without an open literal the policies agree in everything. With one, `Policy.reject` refuses the
template, and the other two differ only where the open literal holds a marker. What is prepared
without a policy is prepared under `Policy.verbatim`. -/
theorem policies_agree_but_on_open_literal (t : Text) :
    let v := ofTemplate .verbatim t
    let p := ofTemplate .pattern t
    prepare .verbatim t = .ok v ∧ prepare .pattern t = .ok p ∧
    ((∃ e, prepare .reject t = .error e) ↔ v.openSpan.isSome = true) ∧
    (v.openSpan = none → prepare .reject t = .ok v ∧ p = v) ∧
    (∀ span, v.openSpan = some span →
      p.segments.map (fun g => (g.span, g.content, g.terminated)) =
        v.segments.map (fun g => (g.span, g.content, g.terminated)) ∧
      p.openSpan = some span ∧
      ∃ g, v.segments.getLast? = some g ∧ g.kind = .plain ∧ g.terminated = false ∧ g.span = span ∧
        t.IsSlice g.span g.source ∧ (marker ∉ g.content → p = v) ∧
        (marker ∈ g.content → p ≠ v ∧ v.Promotes p g)) ∧
    ofTemplate default t = v ∧ prepare default t = .ok v ∧
    (Settings.ofTemplate t).prepare = .ok v := by
  intro v p
  have hreject := exists_prepare_eq_error_iff t .reject
  have hodd := isSome_openSpan_iff_odd .verbatim t
  refine ⟨rfl, rfl, ?_, ?_, ?_, rfl, rfl, rfl⟩
  · rw [hreject, hodd]
    simp
  · intro hnone
    have heven : Even (t.count quote) := by
      rw [← Nat.not_odd_iff_even, ← hodd, hnone]
      simp
    have hok := prepare_eq_ok .reject t fun h => Nat.not_odd_iff_even.mpr heven h.2
    rw [hok, ofTemplate_of_ne_pattern t (by decide)]
    exact ⟨rfl, ofTemplate_of_even heven .pattern .verbatim⟩
  · intro span hspan
    obtain ⟨g, ⟨hlast, hplain, hopen⟩, hg, hsame, hpromotes⟩ :=
      eq_or_promotes_of_odd (hodd.mp (by rw [hspan]; rfl))
    obtain rfl : g.span = span := Option.some.inj (hg.symm.trans hspan)
    have hslice := isSlice_of_mem_segments .verbatim t (List.mem_of_getLast? hlast)
    have hdiffer (hm : marker ∈ g.content) : p ≠ v ∧ v.Promotes p g :=
      ⟨(hpromotes hm).ne, hpromotes hm⟩
    by_cases hm : marker ∈ g.content
    · have h := hpromotes hm
      exact ⟨h.map_segments, h.openSpan.trans hspan, g, hlast, hplain, hopen, rfl, hslice, hsame,
        hdiffer⟩
    · have h : p = v := hsame hm
      rw [h]
      exact ⟨rfl, hspan, g, hlast, hplain, hopen, rfl, hslice, fun _ => rfl,
        fun hm' => absurd hm' hm⟩

end Statement
end SqlTemplate
