import SqlTemplate.Proofs.ByteSlices
import SqlTemplate.Statement

/-! # How the segments of a statement lie in its template

The segments are the quoted slices of the template, in order and apart from each other. The SQL is
the template with the pattern slices overwritten.
-/
namespace SqlTemplate

/-- The token that a segment is made from. -/
def Segment.token (g : Segment) : Token :=
  if g.terminated then .literal g.content else .unterminated g.content

/-- What stands in the template in place of a segment. -/
def Segment.source (g : Segment) : Text := g.token.source

theorem Segment.token_eq_iff {g h : Segment} :
    g.token = h.token ↔ g.content = h.content ∧ g.terminated = h.terminated := by
  cases hg : g.terminated <;> cases hh : h.terminated <;> simp [Segment.token, hg, hh]

theorem Segment.token_eq_unterminated_iff {g : Segment} {c : Text} :
    g.token = .unterminated c ↔ g.terminated = false ∧ g.content = c := by
  cases h : g.terminated <;> simp [Segment.token, h]

theorem Segment.source_eq_quote_cons (g : Segment) : ∃ r, g.source = quote :: r := by
  cases h : g.terminated <;> simp [source, token, h, Token.source]

theorem Segment.source_ne_nil (g : Segment) : g.source ≠ [] := by
  obtain ⟨r, hr⟩ := g.source_eq_quote_cons
  simp [hr]

namespace Token

variable {policy : Policy}

/-- The segments of tokens whose source begins at the offset `i`. -/
def segmentsFrom (policy : Policy) (i : Nat) (ts : List Token) : List Segment :=
  (place i ts).filterMap (segment? policy)

@[simp] theorem segmentsFrom_nil (i : Nat) : segmentsFrom policy i [] = [] := rfl

@[simp] theorem segmentsFrom_text (i : Nat) (w : Text) (ts : List Token) :
    segmentsFrom policy i (.text w :: ts) = segmentsFrom policy (i + w.byteSize) ts := rfl

theorem segment?_eq_some {t : Token} {s : Span} {g : Segment} (h : segment? policy (t, s) = some g) :
    g.token = t ∧ g.span = s ∧ t.kind? policy = some g.kind := by
  cases t <;> simp only [segment?, reduceCtorEq, Option.some.injEq] at h
  all_goals
    subst h
    exact ⟨rfl, rfl, rfl⟩

theorem segmentsFrom_cons_of_quoted {t : Token} (ht : t.isText = false) (policy : Policy) (i : Nat)
    (ts : List Token) :
    ∃ g : Segment, g.token = t ∧ g.span = ⟨i, i + t.source.byteSize⟩ ∧
      t.kind? policy = some g.kind ∧
      segmentsFrom policy i (t :: ts) = g :: segmentsFrom policy (i + t.source.byteSize) ts := by
  obtain ⟨g, hg⟩ : ∃ g, segment? policy (t, ⟨i, i + t.source.byteSize⟩) = some g := by
    cases t with
    | text w => simp [isText] at ht
    | literal c | unterminated c => exact ⟨_, rfl⟩
  obtain ⟨htoken, hspan, hkind⟩ := segment?_eq_some hg
  exact ⟨g, htoken, hspan, hkind, by simp [segmentsFrom, place, hg]⟩

theorem isText_cases (t : Token) : (∃ w, t = .text w) ∨ t.isText = false := by
  cases t with
  | text w => exact Or.inl ⟨w, rfl⟩
  | literal c | unterminated c => exact Or.inr rfl

theorem map_token_segmentsFrom (policy : Policy) (i : Nat) (ts : List Token) :
    (segmentsFrom policy i ts).map Segment.token = ts.filter fun t => !t.isText := by
  induction ts generalizing i with
  | nil => rfl
  | cons t ts ih =>
    rcases isText_cases t with ⟨w, rfl⟩ | ht
    · rw [segmentsFrom_text, ih]
      rfl
    · obtain ⟨g, rfl, -, -, hsegs⟩ := segmentsFrom_cons_of_quoted ht policy i ts
      rw [hsegs, List.map_cons, ih, List.filter_cons_of_pos (by simp [ht])]

theorem token_of_mem_segmentsFrom {i : Nat} {ts : List Token} {g : Segment}
    (h : g ∈ segmentsFrom policy i ts) : g.token ∈ ts ∧ g.token.kind? policy = some g.kind := by
  obtain ⟨⟨t, s⟩, hp, hg⟩ := List.mem_filterMap.mp h
  obtain ⟨rfl, -, hkind⟩ := segment?_eq_some hg
  have hmem : g.token ∈ (place i ts).map Prod.fst := List.mem_map_of_mem hp
  rw [map_fst_place] at hmem
  exact ⟨hmem, hkind⟩

theorem unterminated_mem_iff (policy : Policy) (i : Nat) (ts : List Token) (c : Text) :
    .unterminated c ∈ ts ↔
      ∃ g ∈ segmentsFrom policy i ts, g.terminated = false ∧ g.content = c := by
  have hmem : .unterminated c ∈ ts ↔ .unterminated c ∈ ts.filter fun t => !t.isText := by
    simp [isText]
  rw [hmem, ← map_token_segmentsFrom policy i, List.mem_map]
  simp only [Segment.token_eq_unterminated_iff]

def content? : Token → Option Text
  | .text _ => none
  | .literal content | .unterminated content => some content

/-- The pattern that a token is. -/
def pattern? (policy : Policy) (t : Token) : Option Text :=
  if t.kind? policy = some .pattern then t.content? else none

theorem content?_token (g : Segment) : g.token.content? = some g.content := by
  cases h : g.terminated <;> simp [Segment.token, h, content?]

theorem patterns_segmentsFrom (policy : Policy) (i : Nat) (ts : List Token) :
    ((segmentsFrom policy i ts).filter fun g => g.kind = .pattern).map Segment.content =
      ts.filterMap (pattern? policy) := by
  induction ts generalizing i with
  | nil => rfl
  | cons t ts ih =>
    rcases isText_cases t with ⟨w, rfl⟩ | ht
    · rw [segmentsFrom_text, ih]
      rfl
    · obtain ⟨g, rfl, -, hkind, hsegs⟩ := segmentsFrom_cons_of_quoted ht policy i ts
      rw [hsegs, List.filterMap_cons, pattern?, hkind, content?_token]
      cases hg : g.kind <;> simp [hg, ih]

theorem isSlice_of_mem_segmentsFrom {u : Text} {ts : List Token} {g : Segment}
    (h : g ∈ segmentsFrom policy u.byteSize ts) : Text.IsSlice (u ++ render ts) g.span g.source := by
  obtain ⟨⟨t, s⟩, hp, hg⟩ := List.mem_filterMap.mp h
  obtain ⟨htoken, rfl, -⟩ := segment?_eq_some hg
  rw [Segment.source, htoken]
  exact isSlice_of_mem_place hp

theorem le_start_of_mem {i : Nat} {ts : List Token} {g : Segment}
    (h : g ∈ segmentsFrom policy i ts) : i ≤ g.span.start := by
  induction ts generalizing i with
  | nil => simp at h
  | cons t ts ih =>
    rcases isText_cases t with ⟨w, rfl⟩ | ht
    · exact (Nat.le_add_right _ _).trans (ih h)
    · obtain ⟨g', -, hspan, -, hsegs⟩ := segmentsFrom_cons_of_quoted ht policy i ts
      rw [hsegs] at h
      rcases List.mem_cons.mp h with rfl | h
      · simp [hspan]
      · exact (Nat.le_add_right _ _).trans (ih h)

/-- Behind a literal there is text before the next segment. -/
theorem WellFormed.lt_start_of_mem {i : Nat} {ts : List Token} (hw : WellFormed ts)
    (hu : ∀ u ∈ ts.head?, u.isText = true) {g : Segment} (h : g ∈ segmentsFrom policy i ts) :
    i < g.span.start := by
  cases ts with
  | nil => simp at h
  | cons t ts => cases t with
    | literal c | unterminated c => simp [isText] at hu
    | text w =>
      have hpos := Text.byteSize_pos (wellFormed_text_cons.mp hw).1
      have hle := le_start_of_mem (i := i + w.byteSize) h
      omega

theorem WellFormed.segments_apart {ts : List Token} (hw : WellFormed ts) (i : Nat) :
    (segmentsFrom policy i ts).IsChain fun g h => g.span.stop < h.span.start := by
  induction ts generalizing i with
  | nil => exact .nil
  | cons t ts ih =>
    rcases isText_cases t with ⟨w, rfl⟩ | ht
    · exact ih hw.tail _
    · obtain ⟨g, -, hspan, -, hsegs⟩ := segmentsFrom_cons_of_quoted ht policy i ts
      rw [hsegs]
      refine List.isChain_cons.mpr ⟨?_, ih hw.tail _⟩
      intro h hh
      have hu : ∀ u ∈ ts.head?, u.isText = true := by
        intro u hu
        simpa [ht] using (wellFormed_cons.mp hw).2.1 u hu
      rw [hspan]
      exact hw.tail.lt_start_of_mem hu (List.mem_of_mem_head? hh)

theorem contains_of_source_eq {t : Token} {u r : Text} {c : Char} (h : t.source = u ++ c :: r)
    (i : Nat) : (⟨i, i + t.source.byteSize⟩ : Span).contains (i + u.byteSize) = true := by
  have hc := c.utf8Size_pos
  simp only [Span.contains, h, Text.byteSize_append, Text.byteSize_cons, Bool.and_eq_true,
    decide_eq_true_eq]
  omega

/-- Every quote of the rendered tokens is inside a segment. -/
theorem WellFormed.exists_segment_of_quote {ts : List Token} (hw : WellFormed ts)
    (policy : Policy) (i : Nat) {u v : Text} (h : render ts = u ++ quote :: v) :
    ∃ g ∈ segmentsFrom policy i ts, g.span.contains (i + u.byteSize) = true := by
  induction ts generalizing i u with
  | nil => simp at h
  | cons t ts ih =>
    rw [render_cons] at h
    have hcut := Text.append_eq_append_cons h
    rcases isText_cases t with ⟨w, rfl⟩ | ht
    · rcases hcut with ⟨r, hs⟩ | ⟨u', rfl, hr⟩
      · have hq := (wellFormed_text_cons.mp hw).2.1
        simp only [source] at hs
        simp [hs] at hq
      · simpa [source, Nat.add_assoc] using ih hw.tail (i + w.byteSize) hr
    · obtain ⟨g, -, hspan, -, hsegs⟩ := segmentsFrom_cons_of_quoted ht policy i ts
      rw [hsegs]
      rcases hcut with ⟨r, hs⟩ | ⟨u', rfl, hr⟩
      · exact ⟨g, by simp, by rw [hspan, contains_of_source_eq hs]⟩
      · obtain ⟨g', hg', hc⟩ := ih hw.tail (i + t.source.byteSize) hr
        refine ⟨g', by simp [hg'], ?_⟩
        simpa [Nat.add_assoc] using hc

theorem terminated_of_token_literal {g : Segment} {c : Text} (h : g.token = .literal c) :
    g.terminated = true := by
  cases hg : g.terminated with
  | true => rfl
  | false => simp [Segment.token, hg] at h

/-- Only the last segment can be open, and it reaches to the end. -/
theorem WellFormed.stop_eq_of_open {ts : List Token} (hw : WellFormed ts) {i : Nat} {g : Segment}
    (h : g ∈ segmentsFrom policy i ts) (hg : g.terminated = false) :
    (segmentsFrom policy i ts).getLast? = some g ∧ g.span.stop = i + (render ts).byteSize := by
  induction ts generalizing i with
  | nil => simp at h
  | cons t ts ih =>
    rcases isText_cases t with ⟨w, rfl⟩ | ht
    · simpa [source, Nat.add_assoc] using ih hw.tail h
    · obtain ⟨g', htoken, hspan, -, hsegs⟩ := segmentsFrom_cons_of_quoted ht policy i ts
      rw [hsegs] at h ⊢
      rcases List.mem_cons.mp h with rfl | h
      · cases t with
        | text w => simp [isText] at ht
        | literal c => simp [terminated_of_token_literal htoken] at hg
        | unterminated c =>
          obtain rfl := wellFormed_unterminated_cons.mp hw
          simp [hspan]
      · obtain ⟨hlast, hstop⟩ := ih hw.tail h
        rw [List.getLast?_cons, hlast]
        simpa [Nat.add_assoc] using hstop

theorem WellFormed.terminated_of_mem_dropLast {ts : List Token} (hw : WellFormed ts) {i : Nat}
    {g : Segment} (h : g ∈ (segmentsFrom policy i ts).dropLast) : g.terminated = true := by
  induction ts generalizing i with
  | nil => simp at h
  | cons t ts ih =>
    rcases isText_cases t with ⟨w, rfl⟩ | ht
    · exact ih hw.tail h
    · obtain ⟨g', htoken, -, -, hsegs⟩ := segmentsFrom_cons_of_quoted ht policy i ts
      rw [hsegs] at h
      by_cases hnil : segmentsFrom policy (i + t.source.byteSize) ts = []
      · simp [hnil] at h
      · rw [List.dropLast_cons_of_ne_nil hnil] at h
        rcases List.mem_cons.mp h with rfl | h
        · cases t with
          | text w => simp [isText] at ht
          | literal c => exact terminated_of_token_literal htoken
          | unterminated c =>
            obtain rfl := wellFormed_unterminated_cons.mp hw
            simp at hnil
        · exact ih hw.tail h

theorem kind_eq_pattern_iff {i : Nat} {ts : List Token} {g : Segment}
    (h : g ∈ segmentsFrom policy i ts) :
    g.kind = .pattern ↔ marker ∈ g.content ∧ (g.terminated = true ∨ policy = .pattern) := by
  obtain ⟨⟨t, s⟩, -, hg⟩ := List.mem_filterMap.mp h
  cases t with
  | text w => simp [segment?] at hg
  | literal c =>
    simp only [segment?, Option.some.injEq] at hg
    subst hg
    simp [Kind.classify]
  | unterminated c =>
    simp only [segment?, Option.some.injEq] at hg
    subst hg
    by_cases hp : policy = .pattern <;> simp [Kind.classify, hp]

end Token

end SqlTemplate
