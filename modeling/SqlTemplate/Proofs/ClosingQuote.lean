import SqlTemplate.Proofs.PolicyAgreement

/-! # What one more quote does at the end of a template

It closes the literal that is open there. Where none is open it opens one: a new one, or else the
last literal again, since two quotes in a row do not close a literal but belong to its content.
-/
namespace SqlTemplate

theorem Text.byteSize_append_quote (t : Text) : Text.byteSize (t ++ [quote]) = t.byteSize + 1 :=
  byteSize_append t [quote]

namespace Token

/-- What stands in front of a literal may stand in front of any other one. -/
theorem Apart.append_singleton {front : List Token} {u v : Token} (h : Apart (front ++ [u]))
    (hu : u.isText = false) (hv : v.isText = false) : Apart (front ++ [v]) := by
  induction front with
  | nil =>
    cases v with
    | text w => cases hv
    | literal c => exact .literal nofun .nil
    | unterminated c => exact .unterminated
  | cons t front ih =>
    rw [List.cons_append] at h
    generalize hts : front ++ [u] = ts at h
    cases h with
    | text hne hq rest =>
      subst hts
      exact .text hne hq (ih rest)
    | literal next rest =>
      subst hts
      refine .literal ?_ (ih rest)
      cases front with
      | nil => simp [hu] at next
      | cons t' front => simpa using next
    | unterminated => simp at hts

/-- The last token of a closed template that ends with a quote is a literal. -/
theorem scan_eq_append_literal {t : Text} (heven : Even (t.count quote))
    (hlast : t.getLast? = some quote) : ∃ front c, scan t = front ++ [.literal c] := by
  have hw := wellFormed_scan t
  rcases List.eq_nil_or_concat' (scan t) with hnil | ⟨front, u, hu⟩
  · rw [← render_scan t, hnil] at hlast
    cases hlast
  · cases u with
    | text w =>
      refine absurd ?_ (getLast_ne_quote_of_isText hw.slices (by simp [hu, isText]))
      rwa [render_scan]
    | literal c => exact ⟨front, c, hu⟩
    | unterminated c => exact absurd (by simp [hu]) (not_mem_scan_of_even heven c)

theorem source_unterminated_append_quote (c : Text) :
    (unterminated c).source ++ [quote] = (literal c).source := rfl

theorem source_literal_append_quote (c : Text) :
    (literal c).source ++ [quote] = (unterminated (c ++ [quote])).source := by
  simp [source]

section
variable (policy : Policy) (front : List Token) {c : Text}

/-- A closed literal is what an open one is where open literals may be patterns. -/
theorem pattern?_literal : (literal c).pattern? policy = (unterminated c).pattern? .pattern := by
  simp [pattern?, kind?, content?]

theorem emitted_literal_of_marker (h : marker ∈ c) :
    (literal c).emitted policy = (unterminated c).emitted .pattern := by
  simp [emitted, kind?, Kind.classify, h]

theorem emitted_literal_of_no_marker (h : marker ∉ c) :
    (literal c).emitted policy = (unterminated c).emitted .verbatim ++ [quote] := by
  simp [emitted, kind?, Kind.classify, h, source_unterminated_append_quote]

theorem pattern?_of_no_marker (h : marker ∉ c) : (unterminated c).pattern? policy = none := by
  cases policy <;> simp [pattern?, kind?, Kind.classify, h]

theorem segmentAfter?_literal : (literal c).segmentAfter? policy front =
    some ⟨Kind.classify c, ⟨(render front).byteSize,
      (render front).byteSize + (unterminated c).source.byteSize + 1⟩, c, true⟩ := by
  rw [segmentAfter?, ← source_unterminated_append_quote, Text.byteSize_append_quote]
  rfl

end

end Token

namespace Statement

variable (policy : Policy) {t : Text}

/-- The quote belongs to the last token where that is a literal. -/
theorem ofTemplate_append_quote {front : List Token} {u v : Token}
    (hscan : Token.scan t = front ++ [u]) (hu : u.isText = false) (hv : v.isText = false)
    (hsource : u.source ++ [quote] = v.source) :
    ofTemplate policy (t ++ [quote]) = ofTokens policy (front ++ [v]) := by
  have hapart := Token.apart_scan t
  rw [hscan] at hapart
  have hrender : Token.render (front ++ [v]) = t ++ [quote] := by
    rw [← Token.render_scan t, hscan]
    simp [hsource]
  rw [← hrender, ofTemplate_render (hapart.append_singleton hu hv)]

/-- In `s`, one more quote has closed the literal `g` that is open at the end of the template. It is
a pattern if it holds a marker, whatever the policies are. -/
structure Closes (t : Text) (g : Segment) (s : Statement) : Prop where
  segments : ∃ front, (ofTemplate policy t).segments = front ++ [g] ∧
    s.segments = front ++
      [⟨Kind.classify g.content, ⟨g.span.start, g.span.stop + 1⟩, g.content, true⟩]
  openSpan : s.openSpan = none
  ofMarker : marker ∈ g.content →
    s.sql = (ofTemplate .pattern t).sql ∧ s.patterns = (ofTemplate .pattern t).patterns
  ofNoMarker : marker ∉ g.content → s.sql = (ofTemplate .verbatim t).sql ++ [quote] ∧
    s.patterns = (ofTemplate policy t).patterns

theorem exists_closes {span : Span} (h : (ofTemplate policy t).openSpan = some span) :
    ∃ g, g.span = span ∧ g.terminated = false ∧
      ∀ policy', ∃ s, prepare policy' (t ++ [quote]) = .ok s ∧ Closes policy t g s := by
  have hodd : Odd (t.count quote) := by
    rw [← isSome_openSpan_iff_odd policy t, h]
    rfl
  have heven : Even ((t ++ [quote]).count quote) := by
    rw [List.count_append, List.count_singleton_self]
    exact hodd.add_one
  obtain ⟨front, c, hscan, hclosed⟩ := scan_eq_append_of_odd hodd
  have hopen (p : Policy) := ofTemplate_of_scan_eq_append p hscan hclosed
  rw [hopen policy] at h
  refine ⟨Token.openSegmentAfter policy front c, Option.some.inj h, rfl, fun policy' => ?_⟩
  have hprepared := prepare_eq_ok policy' (t ++ [quote])
    fun hr => Nat.not_odd_iff_even.mpr heven hr.2
  rw [ofTemplate_append_quote policy' hscan rfl rfl (Token.source_unterminated_append_quote c),
    ofTokens_append_singleton policy' hclosed, Token.segmentAfter?_literal] at hprepared
  refine ⟨_, hprepared, ⟨_, by rw [hopen policy], rfl⟩, rfl, fun (hm : marker ∈ c) => ?_,
    fun (hm : marker ∉ c) => ?_⟩
  · rw [hopen .pattern, Token.emitted_literal_of_marker policy' hm, Token.pattern?_literal]
    exact ⟨rfl, rfl⟩
  · rw [hopen .verbatim, hopen policy, Token.emitted_literal_of_no_marker policy' hm,
      Token.pattern?_literal, Token.pattern?_of_no_marker .pattern hm,
      Token.pattern?_of_no_marker policy hm]
    exact ⟨(List.append_assoc _ _ _).symm, rfl⟩

/-- Behind a closed template, one more quote opens the literal `g`. -/
structure Opens (t : Text) (g : Segment) : Prop where
  openSegment : (ofTemplate policy (t ++ [quote])).openSegment = some g
  ofText : t.getLast? ≠ some quote →
    (ofTemplate policy (t ++ [quote])).segments = (ofTemplate policy t).segments ++ [g] ∧
      g.span = ⟨t.byteSize, t.byteSize + 1⟩ ∧ g.content = []
  /-- The quote at the end has closed the literal `l`, which is open again. -/
  ofLiteral : t.getLast? = some quote → ∃ front l,
    (ofTemplate policy t).segments = front ++ [l] ∧
      (ofTemplate policy (t ++ [quote])).segments = front ++ [g] ∧
      g.span = ⟨l.span.start, l.span.stop + 1⟩ ∧ g.content = l.content ++ [quote]

theorem exists_opens (h : (ofTemplate policy t).openSpan = none) : ∃ g, Opens policy t g := by
  have heven : Even (t.count quote) := by
    rw [← Nat.not_odd_iff_even, ← isSome_openSpan_iff_odd policy t, h]
    nofun
  have hclosed := Token.not_mem_scan_of_even heven
  by_cases hlast : t.getLast? = some quote
  · obtain ⟨front, c, hscan⟩ := Token.scan_eq_append_literal heven hlast
    have hfront (d : Text) : .unterminated d ∉ front := fun hd => hclosed d (by simp [hscan, hd])
    have hself : (ofTemplate policy t).segments = Token.segmentsFrom .verbatim 0 front ++
        ((Token.literal c).segmentAfter? policy front).toList := by
      rw [← ofTokens_scan, hscan, ofTokens_append_singleton policy hfront]
    have hquote : (ofTemplate policy (t ++ [quote])).segments =
        Token.segmentsFrom .verbatim 0 front ++
          [Token.openSegmentAfter policy front (c ++ [quote])] := by
      rw [ofTemplate_append_quote policy hscan rfl rfl (Token.source_literal_append_quote c),
        ofTokens_append_singleton policy hfront]
      rfl
    refine ⟨_, openSegment_of_segments_eq policy _ hquote rfl, fun hne => absurd hlast hne,
      fun _ => ⟨_, _, hself, hquote, ?_, rfl⟩⟩
    rw [Token.openSegmentAfter, ← Token.source_literal_append_quote, Text.byteSize_append_quote]
    rfl
  · have hempty : ofTemplate policy (t ++ [quote]) =
        ofTokens policy (Token.scan t ++ [.unterminated []]) :=
      ofTemplate_append_unterminated policy heven hlast []
    have hquote : (ofTemplate policy (t ++ [quote])).segments =
        (ofTemplate policy t).segments ++ [Token.openSegmentAfter policy (Token.scan t) []] := by
      rw [hempty, ofTokens_append_singleton policy hclosed, segments_ofTemplate,
        Token.segmentsFrom_of_closed hclosed .verbatim policy]
      rfl
    refine ⟨_, openSegment_of_segments_eq policy _ hquote rfl, fun _ => ⟨hquote, ?_, rfl⟩,
      fun heq => absurd heq hlast⟩
    rw [Token.openSegmentAfter, Token.render_scan]
    rfl

/-- One more quote at the end of a template closes the literal that it leaves open, so that no
policy refuses it any more. Where none is open it opens one, which `Policy.reject` refuses. -/
theorem quote_toggles_open_literal (t : Text) :
    (∀ span, (ofTemplate policy t).openSpan = some span → ∃ g, g.span = span ∧
      g.terminated = false ∧
      ∀ policy', ∃ s, prepare policy' (t ++ [quote]) = .ok s ∧ Closes policy t g s) ∧
    ((ofTemplate policy t).openSpan = none → ∃ g, Opens policy t g ∧
      prepare policy (t ++ [quote]) =
        if policy = .reject then .error ⟨g.span, g.content⟩
        else .ok (ofTemplate policy (t ++ [quote]))) := by
  refine ⟨fun span h => exists_closes policy h, fun h => ?_⟩
  obtain ⟨g, hg⟩ := exists_opens policy h
  refine ⟨g, hg, ?_⟩
  split
  · next hp => exact (prepare_eq_error_iff policy _ _).mpr ⟨hp, g, hg.openSegment, rfl⟩
  · next hp => exact prepare_eq_ok policy _ fun hr => hp hr.1

theorem quote_toggles_open_literal_behind_pair :
    (ofTemplate .verbatim "é'a''%".toList).openSpan = some ⟨2, 7⟩ ∧
    (∃ s, prepare .reject ("é'a''%".toList ++ [quote]) = .ok s ∧ s.openSpan = none) ∧
    (ofTemplate .reject "é'%'".toList).openSpan = none ∧
    ∃ e, prepare .reject ("é'%'".toList ++ [quote]) = .error e := by
  have hopen : (ofTemplate .verbatim "é'a''%".toList).openSpan = some ⟨2, 7⟩ := by decide +kernel
  have hclosed : (ofTemplate .reject "é'%'".toList).openSpan = none := by decide +kernel
  obtain ⟨_, -, -, hall⟩ := (quote_toggles_open_literal .verbatim "é'a''%".toList).1 _ hopen
  obtain ⟨s, hs, hcloses⟩ := hall .reject
  obtain ⟨_, -, hg⟩ := (quote_toggles_open_literal .reject "é'%'".toList).2 hclosed
  exact ⟨hopen, ⟨s, hs, hcloses.openSpan⟩, hclosed, _, hg⟩

end Statement
end SqlTemplate
