import SqlTemplate.Proofs.Composition

/-! # Preparing the SQL of a statement again

The SQL has the plain literals of the template and no others, moved to the left by what the patterns
in front of them have saved. So preparing it changes nothing more, unless the template left a
literal open and the second policy treats that one in another way than the first.
-/
namespace SqlTemplate

/-- The plain segments among those of a template, each with the number of bytes that the patterns in
front of it save in the SQL. -/
def Segment.remaining : Nat → List Segment → List (Nat × Segment)
  | _, [] => []
  | saved, g :: gs =>
    match g.kind with
    | .plain => (saved, g) :: remaining saved gs
    | .pattern => remaining (saved + (g.span.size - placeholder.utf8Size)) gs

/-- The literal `g'` is the segment `g` without the bytes saved in front of it. -/
structure Segment.IsMoved (g' : Segment) (saved : Nat) (g : Segment) : Prop where
  span : g.span = g'.span.shift saved
  content : g'.content = g.content
  terminated : g'.terminated = g.terminated

namespace Token

variable {policy policy' : Policy}

theorem forall₂_remaining (policy policy' : Policy) (saved i : Nat) (ts : List Token) :
    List.Forall₂ (fun g r => g.IsMoved r.1 r.2)
      (segmentsFrom policy' i (ts.map (parameterize policy)))
      (Segment.remaining saved (segmentsFrom policy (saved + i) ts)) := by
  induction ts generalizing saved i with
  | nil => exact .nil
  | cons t ts ih =>
    rw [List.map_cons]
    rcases isText_cases t with ⟨w, rfl⟩ | ht
    · rw [parameterize_text, segmentsFrom_text, segmentsFrom_text, Nat.add_assoc]
      exact ih saved (i + w.byteSize)
    · obtain ⟨g, htoken, hspan, hkind, hsegs⟩ := segmentsFrom_cons_of_quoted ht policy (saved + i) ts
      rw [hsegs, Segment.remaining]
      cases hg : g.kind with
      | plain =>
        have hself : t.parameterize policy = t := by simp [parameterize, hkind, hg]
        obtain ⟨g', htoken', hspan', -, hsegs'⟩ :=
          segmentsFrom_cons_of_quoted ht policy' i (ts.map (parameterize policy))
        obtain ⟨hcontent, hterminated⟩ := Segment.token_eq_iff.mp (htoken'.trans htoken.symm)
        rw [hself, hsegs', Nat.add_assoc]
        refine .cons ⟨?_, hcontent, hterminated⟩ (ih saved (i + t.source.byteSize))
        rw [hspan, hspan', Span.shift, Nat.add_assoc]
      | pattern =>
        have hmark : t.parameterize policy = .text [placeholder] := by
          rw [parameterize, if_pos (by rw [hkind, hg])]
        have hlt := byteSize_emitted_lt (hkind.trans (congrArg some hg))
        rw [emitted, if_pos (hkind.trans (congrArg some hg)), Text.byteSize_cons,
          Text.byteSize_nil, Nat.add_zero] at hlt
        -- the placeholder takes one of the bytes of the pattern, and the rest is saved
        have hoffset : saved + i + t.source.byteSize =
            saved + (g.span.size - placeholder.utf8Size) + (i + placeholder.utf8Size) := by
          simp only [hspan, Span.size]
          omega
        rw [hmark, segmentsFrom_text, hoffset]
        exact ih _ _

/-- Only an open literal can be a pattern the second time. -/
theorem pattern?_parameterize {t : Token} {c : Text}
    (h : (t.parameterize policy).pattern? policy' = some c) :
    t.parameterize policy = .unterminated c ∧ policy' = .pattern ∧ marker ∈ c := by
  by_cases hk : t.kind? policy = some .pattern
  · rw [parameterize, if_pos hk] at h
    simp [pattern?, kind?] at h
  · rw [parameterize, if_neg hk] at h ⊢
    cases t with
    | text w => simp [pattern?, kind?] at h
    | literal d =>
      rw [kind?] at hk
      simp [pattern?, kind?, hk] at h
    | unterminated d =>
      by_cases hp : policy' = .pattern
      · simp only [pattern?, kind?, hp, if_true, content?, Option.some.injEq] at h
        split at h
        · next hd =>
          obtain rfl := Option.some.inj h
          refine ⟨rfl, hp, ?_⟩
          by_contra hm
          simp [Kind.classify, hm] at hd
        · cases h
      · simp [pattern?, kind?, hp] at h

theorem filterMap_pattern?_eq_nil {ts us : List Token} (hus : us ⊆ ts.map (parameterize policy))
    (h : ∀ c, .unterminated c ∈ us → policy' = .pattern → marker ∉ c) :
    us.filterMap (pattern? policy') = [] := by
  rw [List.filterMap_eq_nil_iff]
  intro u hu
  rw [Option.eq_none_iff_forall_ne_some]
  intro c hc
  obtain ⟨t, -, rfl⟩ := List.mem_map.mp (hus hu)
  obtain ⟨hopen, hp, hm⟩ := pattern?_parameterize hc
  exact h c (hopen ▸ hu) hp hm

theorem flatMap_emitted_of_filterMap_eq_nil {ts : List Token}
    (h : ts.filterMap (pattern? policy) = []) : ts.flatMap (emitted policy) = render ts := by
  have hsource : ∀ t ∈ ts, t.emitted policy = t.source := by
    intro t ht
    have hnone := List.filterMap_eq_nil_iff.mp h t ht
    rw [← source_parameterize, parameterize_of_pattern?_eq_none hnone]
  exact List.flatMap_congr hsource

theorem Apart.eq_append_of_mem {ts : List Token} (h : Apart ts) {c : Text}
    (hc : .unterminated c ∈ ts) :
    ∃ front, ts = front ++ [.unterminated c] ∧ ∀ d, .unterminated d ∉ front := by
  induction h with
  | nil => simp at hc
  | @text w ts _ _ _ ih =>
    obtain ⟨front, rfl, hfront⟩ := ih (by simpa using hc)
    exact ⟨.text w :: front, rfl, by simpa using hfront⟩
  | @literal d ts _ _ ih =>
    obtain ⟨front, rfl, hfront⟩ := ih (by simpa using hc)
    exact ⟨.literal d :: front, rfl, by simpa using hfront⟩
  | unterminated =>
    obtain rfl : c = _ := by simpa using hc
    exact ⟨[], rfl, by simp⟩

end Token

namespace Statement

variable (policy policy' : Policy) (t : Text)

/-- The last segment is left open and copied into the SQL. -/
def LeavesOpen (s : Statement) (g : Segment) : Prop :=
  s.segments.getLast? = some g ∧ g.kind = .plain ∧ g.terminated = false

theorem unterminated_mem_parameterized_iff (c : Text) :
    .unterminated c ∈ (Token.scan t).map (Token.parameterize policy) ↔
      ∃ g, (ofTemplate policy t).LeavesOpen g ∧ g.content = c := by
  rw [Token.unterminated_mem_map_parameterize_iff]
  constructor
  · rintro ⟨hmem, hk⟩
    obtain ⟨g, hg, hopen, rfl⟩ := (Token.unterminated_mem_iff policy 0 _ c).mp hmem
    have hlast := ((Token.wellFormed_scan t).stop_eq_of_open hg hopen).1
    have hkind := (Token.token_of_mem_segmentsFrom hg).2
    rw [Segment.token_eq_unterminated_iff.mpr ⟨hopen, rfl⟩] at hkind
    refine ⟨g, ⟨hlast, ?_, hopen⟩, rfl⟩
    cases hplain : g.kind with
    | plain => rfl
    | pattern => exact absurd (hplain ▸ hkind) hk
  · rintro ⟨g, ⟨hlast, hplain, hopen⟩, rfl⟩
    obtain ⟨hmem, hkind⟩ := Token.token_of_mem_segmentsFrom (List.mem_of_getLast? hlast)
    rw [Segment.token_eq_unterminated_iff.mpr ⟨hopen, rfl⟩] at hmem hkind
    exact ⟨hmem, by simp [hkind, hplain]⟩

theorem patterns_ofTemplate_sql : (ofTemplate policy' (ofTemplate policy t).sql).patterns =
    ((Token.scan t).map (Token.parameterize policy)).filterMap (Token.pattern? policy') := by
  rw [ofTemplate_sql]
  exact Token.patterns_segmentsFrom policy' 0 _

theorem openSegment_ofTemplate_sql_eq_none_iff :
    (ofTemplate policy' (ofTemplate policy t).sql).openSegment = none ↔
      ∀ g, ¬ (ofTemplate policy t).LeavesOpen g := by
  have hparity := (Token.apart_parameterized policy t).odd_count_quote_iff
  rw [openSegment_ofTemplate_eq_none_iff, ← Nat.not_odd_iff_even, sql_ofTemplate,
    ← Token.render_map_parameterize, hparity]
  simp only [unterminated_mem_parameterized_iff]
  constructor
  · intro h g hg
    exact h ⟨g.content, g, hg, rfl⟩
  · rintro h ⟨c, g, hg, -⟩
    exact h g hg

theorem prepare_sql_eq_error_iff :
    (∃ e, prepare policy' (ofTemplate policy t).sql = .error e) ↔
      policy' = .reject ∧ ∃ g, (ofTemplate policy t).LeavesOpen g := by
  have hnone := openSegment_ofTemplate_sql_eq_none_iff policy policy' t
  have hsome : (∃ g, (ofTemplate policy' (ofTemplate policy t).sql).openSegment = some g) ↔
      ∃ g, (ofTemplate policy t).LeavesOpen g := by
    rw [← Option.isSome_iff_exists, Option.isSome_iff_ne_none, ne_eq, hnone, not_forall_not]
  simp only [prepare_eq_error_iff, ← hsome]
  constructor
  · rintro ⟨e, hp, g, hg, -⟩
    exact ⟨hp, g, hg⟩
  · rintro ⟨hp, g, hg⟩
    exact ⟨_, hp, g, hg, rfl⟩

/-- What is not refused is prepared. -/
theorem prepare_sql_eq_ok (h : ¬ (policy' = .reject ∧ ∃ g, (ofTemplate policy t).LeavesOpen g)) :
    prepare policy' (ofTemplate policy t).sql =
      .ok (ofTemplate policy' (ofTemplate policy t).sql) := by
  refine (prepare_eq_ok_iff policy' _ _).mpr ⟨rfl, fun hp => ?_⟩
  rw [openSegment_ofTemplate_sql_eq_none_iff]
  exact fun g hg => h ⟨hp, g, hg⟩

theorem sql_unchanged (h : ¬ (policy' = .pattern ∧
      ∃ g, (ofTemplate policy t).LeavesOpen g ∧ marker ∈ g.content)) :
    (ofTemplate policy' (ofTemplate policy t).sql).sql = (ofTemplate policy t).sql ∧
      (ofTemplate policy' (ofTemplate policy t).sql).patterns = [] := by
  have hnil : ((Token.scan t).map (Token.parameterize policy)).filterMap
      (Token.pattern? policy') = [] := by
    refine Token.filterMap_pattern?_eq_nil (List.Subset.refl _) fun c hc hp hm => ?_
    obtain ⟨g, hg, rfl⟩ := (unterminated_mem_parameterized_iff policy t c).mp hc
    exact h ⟨hp, g, hg, hm⟩
  refine ⟨?_, (patterns_ofTemplate_sql policy policy' t).trans hnil⟩
  rw [ofTemplate_sql, sql_ofTemplate, ← Token.render_map_parameterize]
  exact Token.flatMap_emitted_of_filterMap_eq_nil hnil

/-- The open literal at the end gives way to a placeholder. -/
theorem sql_of_leavesOpen {g : Segment} (hg : (ofTemplate policy t).LeavesOpen g)
    (hm : marker ∈ g.content) :
    ∃ x, (ofTemplate policy t).sql = x ++ g.source ∧
      (ofTemplate .pattern (ofTemplate policy t).sql).sql = x ++ [placeholder] ∧
      (ofTemplate .pattern (ofTemplate policy t).sql).patterns = [g.content] := by
  have hmem := (unterminated_mem_parameterized_iff policy t g.content).mpr ⟨g, hg, rfl⟩
  obtain ⟨front, hfront, hclosed⟩ := (Token.apart_parameterized policy t).eq_append_of_mem hmem
  have hsource : g.source = (Token.unterminated g.content).source := by
    rw [Segment.source, Segment.token_eq_unterminated_iff.mpr ⟨hg.2.2, rfl⟩]
  have hkind : (Token.unterminated g.content).kind? .pattern = some .pattern := by
    simp [Token.kind?, Kind.classify, hm]
  have hsubset : front ⊆ (Token.scan t).map (Token.parameterize policy) := by
    rw [hfront]
    exact List.subset_append_left _ _
  have hnil : front.filterMap (Token.pattern? .pattern) = [] :=
    Token.filterMap_pattern?_eq_nil hsubset fun c hc => absurd hc (hclosed c)
  refine ⟨Token.render front, ?_, ?_, ?_⟩
  · rw [sql_ofTemplate, ← Token.render_map_parameterize, hfront, hsource]
    simp [Token.render]
  · rw [ofTemplate_sql, hfront, ofTokens, List.flatMap_append,
      Token.flatMap_emitted_of_filterMap_eq_nil hnil]
    simp [Token.emitted, hkind]
  · rw [patterns_ofTemplate_sql, hfront, List.filterMap_append, hnil]
    simp [Token.pattern?, hkind, Token.content?]

theorem not_leavesOpen_of_prepare {s : Statement} (h : prepare .reject t = .ok s) (g : Segment) :
    ¬ s.LeavesOpen g := by
  obtain ⟨rfl, hclosed⟩ := (prepare_eq_ok_iff .reject t s).mp h
  rintro ⟨hlast, -, hopen⟩
  have hsome := (openSegment_ofTemplate_eq_some_iff .reject t g).mpr ⟨hlast, hopen⟩
  rw [hclosed rfl] at hsome
  cases hsome

/-- What has a marker is no plain segment when open literals are patterns. -/
theorem marker_not_mem_of_leavesOpen {g : Segment} (hg : (ofTemplate .pattern t).LeavesOpen g) :
    marker ∉ g.content := by
  obtain ⟨hlast, hplain, -⟩ := hg
  intro hm
  have hkind := (Token.kind_eq_pattern_iff (List.mem_of_getLast? hlast)).mpr ⟨hm, Or.inr rfl⟩
  rw [hplain] at hkind
  cases hkind

/-- Preparing the SQL finds the plain segments again. It is refused, or gives other SQL, only for
the literal that the template left open, so that a policy is idempotent. -/
theorem prepare_sql {s : Statement} (h : prepare policy t = .ok s) :
    let s' := ofTemplate policy' s.sql
    List.Forall₂ (fun g r => g.IsMoved r.1 r.2) s'.segments (Segment.remaining 0 s.segments) ∧
    ((∃ e, prepare policy' s.sql = .error e) ↔ policy' = .reject ∧ ∃ g, s.LeavesOpen g) ∧
    (∀ g, policy' = .pattern → s.LeavesOpen g → marker ∈ g.content →
      prepare policy' s.sql = .ok s' ∧ s'.sql ≠ s.sql ∧ s'.patterns = [g.content] ∧
        ∃ x, s.sql = x ++ g.source ∧ s'.sql = x ++ [placeholder]) ∧
    (¬ (policy' = .reject ∧ ∃ g, s.LeavesOpen g) →
      ¬ (policy' = .pattern ∧ ∃ g, s.LeavesOpen g ∧ marker ∈ g.content) →
      prepare policy' s.sql = .ok s' ∧ s'.sql = s.sql ∧ s'.patterns = []) ∧
    ∃ r, prepare policy s.sql = .ok r ∧ r.sql = s.sql := by
  intro s'
  obtain rfl := eq_ofTemplate_of_prepare policy t h
  refine ⟨?_, prepare_sql_eq_error_iff policy policy' t, ?_, ?_, ?_⟩
  · have hmoved := Token.forall₂_remaining policy policy' 0 0 (Token.scan t)
    have hsegments : s'.segments =
        Token.segmentsFrom policy' 0 ((Token.scan t).map (Token.parameterize policy)) :=
      congrArg segments (ofTemplate_sql policy policy' t)
    rw [hsegments]
    exact hmoved
  · rintro g rfl hg hm
    obtain ⟨x, hsource, hsql, hpatterns⟩ := sql_of_leavesOpen policy t hg hm
    refine ⟨prepare_sql_eq_ok policy .pattern t (by simp), ?_, hpatterns, x, hsource, hsql⟩
    obtain ⟨r, hr⟩ := g.source_eq_quote_cons
    rw [hsql, hsource, hr]
    intro heq
    exact absurd (List.cons.inj (List.append_cancel_left heq)).1 (by decide)
  · intro hreject hpattern
    exact ⟨prepare_sql_eq_ok policy policy' t hreject, sql_unchanged policy policy' t hpattern⟩
  · have hreject : ¬ (policy = .reject ∧ ∃ g, (ofTemplate policy t).LeavesOpen g) := by
      rintro ⟨rfl, g, hg⟩
      exact not_leavesOpen_of_prepare t h g hg
    have hpattern : ¬ (policy = .pattern ∧
        ∃ g, (ofTemplate policy t).LeavesOpen g ∧ marker ∈ g.content) := by
      rintro ⟨rfl, g, hg, hm⟩
      exact marker_not_mem_of_leavesOpen t hg hm
    exact ⟨_, prepare_sql_eq_ok policy policy t hreject, (sql_unchanged policy policy t hpattern).1⟩

theorem prepare_sql_of_open_literal :
    ∃ s, prepare .verbatim "é'%m','x'?'%d".toList = .ok s ∧
      (∃ e, prepare .reject s.sql = .error e) ∧
      ∃ s', prepare .pattern s.sql = .ok s' ∧ s'.patterns = ["%d".toList] := by
  have hs : prepare .verbatim "é'%m','x'?'%d".toList = .ok ⟨"é?,'x'?'%d".toList, ["%m".toList],
      [⟨.pattern, ⟨2, 6⟩, "%m".toList, true⟩, ⟨.plain, ⟨7, 10⟩, "x".toList, true⟩,
        ⟨.plain, ⟨11, 14⟩, "%d".toList, false⟩], some ⟨11, 14⟩⟩ := by decide +kernel
  obtain ⟨-, hrefused, -⟩ := prepare_sql .verbatim .reject _ hs
  obtain ⟨-, -, hchanged, -⟩ := prepare_sql .verbatim .pattern _ hs
  have hopen := hchanged _ rfl ⟨rfl, rfl, rfl⟩ (by decide)
  exact ⟨_, hs, hrefused.mpr ⟨rfl, _, rfl, rfl, rfl⟩, _, hopen.1, hopen.2.2.1⟩

end Statement
end SqlTemplate
