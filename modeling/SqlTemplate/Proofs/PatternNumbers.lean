import SqlTemplate.Binding
import SqlTemplate.Listing
import SqlTemplate.Proofs.StatementConsistency
import SqlTemplate.Report

/-! # The numbers of the patterns

The report numbers the segments that are patterns, the listing and the parameters number the
patterns themselves; the numbers are the same. The labels of the report take their spans from the
segments, in bytes, and are drawn as if these counted characters.
-/
namespace SqlTemplate

namespace Text

theorem utf8Size_eq_one_iff (c : Char) : c.utf8Size = 1 ↔ c.toNat < 128 := by
  rw [Char.utf8Size_eq_one_iff, UInt32.le_iff_toNat_le]
  exact Nat.lt_succ_iff.symm

theorem length_le_byteSize (t : Text) : t.length ≤ t.byteSize := by
  induction t with
  | nil => exact Nat.le_refl 0
  | cons c t ih =>
    have hc := c.utf8Size_pos
    rw [List.length_cons, byteSize_cons]
    omega

/-- Bytes and characters are as many just where every character is ASCII. -/
theorem byteSize_eq_length_iff (t : Text) : t.byteSize = t.length ↔ ∀ c ∈ t, c.toNat < 128 := by
  induction t with
  | nil => simp
  | cons c t ih =>
    have hc := c.utf8Size_pos
    have ht := length_le_byteSize t
    rw [List.forall_mem_cons, ← ih, ← utf8Size_eq_one_iff, byteSize_cons, List.length_cons]
    omega

/-- The span of a slice counts its characters too just where all up to its end is ASCII. -/
theorem IsSlice.chars_iff {t w : Text} {s : Span} (h : t.IsSlice s w) :
    ∃ before after, t = before ++ w ++ after ∧
      s = ⟨before.byteSize, (before ++ w).byteSize⟩ ∧
      (s = ⟨before.length, (before ++ w).length⟩ ↔ ∀ c ∈ before ++ w, c.toNat < 128) := by
  obtain ⟨before, after, ht, hstart, hstop⟩ := h
  have hs : s = ⟨before.byteSize, (before ++ w).byteSize⟩ := by
    rw [byteSize_append, hstart, hstop]
  refine ⟨before, after, ht, hs, ?_⟩
  rw [hs, Span.mk.injEq, byteSize_eq_length_iff, byteSize_eq_length_iff, and_iff_right_iff_imp]
  exact fun hall c hc => hall c (List.mem_append_left w hc)

end Text

namespace Statement

/-- The pattern of the literal `g` has the number `k + 1`: in the report, in the listing, where its
line stands behind those of the patterns before it, and among the parameters. -/
structure Numbers (s : Statement) (k : Nat) (g : Segment) : Prop where
  literal : s.patternSegments[k]? = some g
  label : s.explanation.labels[k]? =
    some ⟨g.span, "placeholder ".toList ++ Text.decimal (k + 1), .cyan⟩
  pattern : s.patterns[k]? = some g.content
  line : ∃ rest, s.listing = { s with patterns := s.patterns.take k }.listing ++
    (Text.decimal (k + 1) ++ ':' :: ' ' :: g.content ++ ['\n']) ++ rest
  param : ∀ {Event : Type} (layout : Layout Event) (event : Event),
    (s.bind layout event).params[k]? = some (k + 1, layout g.content event)

section
variable {s : Statement}

theorem getElem?_labels {k : Nat} {g : Segment} (h : s.patternSegments[k]? = some g) :
    s.explanation.labels[k]? =
      some ⟨g.span, "placeholder ".toList ++ Text.decimal (k + 1), .cyan⟩ := by
  simp [explanation, h]

theorem getElem?_params {k : Nat} {pattern : Text} (h : s.patterns[k]? = some pattern)
    {Event : Type} (layout : Layout Event) (event : Event) :
    (s.bind layout event).params[k]? = some (k + 1, layout pattern event) := by
  simp [bind, Bound.params, h]

theorem exists_listing_eq {k : Nat} {pattern : Text} (h : s.patterns[k]? = some pattern) :
    ∃ rest, s.listing = { s with patterns := s.patterns.take k }.listing ++
      patternLine (k + 1) pattern ++ rest := by
  obtain ⟨hk, hpattern⟩ := List.getElem?_eq_some_iff.mp h
  have hsplit : s.patterns = s.patterns.take k ++ pattern :: s.patterns.drop (k + 1) := by
    rw [← hpattern, ← List.drop_eq_getElem_cons, List.take_append_drop]
  have hlength : (s.patterns.take k).length = k := List.length_take_of_le (Nat.le_of_lt hk)
  refine ⟨((s.patterns.drop (k + 1)).zipIdx (k + 1)).flatMap
    fun p => patternLine (p.2 + 1) p.1, ?_⟩
  unfold listing
  conv_lhs => rw [hsplit]
  rw [List.zipIdx_append, hlength, Nat.zero_add, List.zipIdx_cons, List.flatMap_append,
    List.flatMap_cons]
  simp only [List.append_assoc]

theorem numbers_of_getElem? (hs : s.patterns = s.patternSegments.map Segment.content) {k : Nat}
    {g : Segment} (h : s.patternSegments[k]? = some g) : s.Numbers k g := by
  have hpattern : s.patterns[k]? = some g.content := by
    rw [hs, List.getElem?_map, h, Option.map_some]
  exact ⟨h, getElem?_labels h, hpattern, exists_listing_eq hpattern, getElem?_params hpattern⟩

theorem length_labels (s : Statement) : s.explanation.labels.length = s.patternSegments.length := by
  rw [explanation, List.length_map, List.length_zipIdx]

end

section
variable (policy : Policy) (t : Text)

theorem patterns_ofTemplate :
    (ofTemplate policy t).patterns = (ofTemplate policy t).patternSegments.map Segment.content :=
  rfl

/-- The report labels the literals of the patterns and numbers them as the listing and the
parameters do. A label lies on the characters of its literal just where the template is ASCII up to
the end of the literal. -/
theorem labels_number_patterns {s : Statement} (h : prepare policy t = .ok s) :
    s.explanation.labels.length = s.patterns.length ∧
    ∀ k < s.patterns.length, ∃ g, s.Numbers k g ∧
      ∃ before after, t = before ++ g.source ++ after ∧
        g.span = ⟨before.byteSize, (before ++ g.source).byteSize⟩ ∧
        (g.span = ⟨before.length, (before ++ g.source).length⟩ ↔
          ∀ c ∈ before ++ g.source, c.toNat < 128) := by
  obtain rfl := eq_ofTemplate_of_prepare policy t h
  have hlength : (ofTemplate policy t).patterns.length =
      (ofTemplate policy t).patternSegments.length := by
    rw [patterns_ofTemplate, List.length_map]
  refine ⟨by rw [length_labels, hlength], fun k hk => ?_⟩
  rw [hlength] at hk
  have hg := List.getElem?_eq_getElem hk
  have hmem : (ofTemplate policy t).patternSegments[k] ∈ (ofTemplate policy t).segments :=
    List.mem_of_mem_filter (List.getElem_mem hk)
  exact ⟨_, numbers_of_getElem? (patterns_ofTemplate policy t) hg,
    (isSlice_of_mem_segments policy t hmem).chars_iff⟩

theorem labels_number_patterns_behind_wide_character :
    ∃ s, prepare .pattern "é'%','%m".toList = .ok s ∧ s.explanation.labels.length = 2 ∧
      ∃ g, s.Numbers 1 g := by
  have hprepared : prepare .pattern "é'%','%m".toList =
      .ok (ofTemplate .pattern "é'%','%m".toList) := by decide +kernel
  have hlength : (ofTemplate .pattern "é'%','%m".toList).patterns.length = 2 := by decide +kernel
  obtain ⟨hlabels, hnumbers⟩ := labels_number_patterns .pattern _ hprepared
  obtain ⟨g, hg, -⟩ := hnumbers 1 (by rw [hlength]; decide)
  exact ⟨_, hprepared, hlabels.trans hlength, g, hg⟩

end

end Statement
end SqlTemplate
