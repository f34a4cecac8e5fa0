import SqlTemplate.Proofs.TokenRoundTrip

/-! # Spans of bytes in a text

A span marks a slice of a text when both its ends are between two characters. Slices can be
overwritten one after another, everything between them being copied.
-/
namespace SqlTemplate

namespace Text

theorem byteSize_pos {t : Text} (h : t ≠ []) : 0 < t.byteSize := by
  cases t with
  | nil => exact absurd rfl h
  | cons c r =>
    have hc := c.utf8Size_pos
    rw [byteSize_cons]
    omega

@[simp] theorem splitAtByte_zero (t : Text) : t.splitAtByte 0 = ([], t) := by
  cases t <;> simp [splitAtByte]

theorem splitAtByte_byteSize_add (u t : Text) (n : Nat) :
    (u ++ t).splitAtByte (u.byteSize + n) =
      (u ++ (t.splitAtByte n).1, (t.splitAtByte n).2) := by
  induction u with
  | nil => simp
  | cons c u ih =>
    have hc := c.utf8Size_pos
    have hne : c.utf8Size + byteSize u + n ≠ 0 := by omega
    have hsub : c.utf8Size + byteSize u + n - c.utf8Size = byteSize u + n := by omega
    rw [byteSize_cons, List.cons_append, splitAtByte, hsub, ih]
    · rfl
    · simpa using hne

@[simp] theorem splitAtByte_byteSize (u t : Text) : (u ++ t).splitAtByte u.byteSize = (u, t) := by
  simpa using splitAtByte_byteSize_add u t 0

/-- The offset is between two characters or at an end. -/
def IsBoundary (t : Text) (i : Nat) : Prop :=
  ∃ before after, t = before ++ after ∧ before.byteSize = i

/-- The bytes of the span are the text `w`, and it begins and ends between two characters. -/
def IsSlice (t : Text) (s : Span) (w : Text) : Prop :=
  ∃ before after, t = before ++ w ++ after ∧ before.byteSize = s.start ∧
    s.start + w.byteSize = s.stop

theorem IsSlice.boundary_start {t w : Text} {s : Span} (h : t.IsSlice s w) :
    t.IsBoundary s.start := by
  obtain ⟨before, after, rfl, hs, -⟩ := h
  exact ⟨before, w ++ after, by simp, hs⟩

theorem IsSlice.boundary_stop {t w : Text} {s : Span} (h : t.IsSlice s w) :
    t.IsBoundary s.stop := by
  obtain ⟨before, after, rfl, hs, he⟩ := h
  exact ⟨before ++ w, after, rfl, by rw [byteSize_append]; omega⟩

theorem IsSlice.start_lt_stop {t w : Text} {s : Span} (h : t.IsSlice s w) (hw : w ≠ []) :
    s.start < s.stop := by
  obtain ⟨before, after, rfl, hs, he⟩ := h
  have hpos := byteSize_pos hw
  omega

theorem IsSlice.stop_le {t w : Text} {s : Span} (h : t.IsSlice s w) : s.stop ≤ t.byteSize := by
  obtain ⟨before, after, rfl, hs, he⟩ := h
  simp only [byteSize_append]
  omega

/-- A text is cut between two offsets just where these bound a slice of it. -/
theorem cut?_eq_some_iff {t w : Text} {i j : Nat} : t.cut? i j = some w ↔ t.IsSlice ⟨i, j⟩ w := by
  constructor
  · intro h
    unfold cut? at h
    dsimp only at h
    split at h
    · next hsize =>
      obtain rfl := Option.some.inj h
      refine ⟨_, ((t.splitAtByte i).2.splitAtByte (j - i)).2, ?_, hsize⟩
      rw [List.append_assoc, splitAtByte_append, splitAtByte_append]
    · cases h
  · intro h
    obtain ⟨before, after, rfl, hi, hj⟩ := h
    dsimp only at hi hj
    subst hi hj
    have hfront := splitAtByte_byteSize before (w ++ after)
    have htext := splitAtByte_byteSize w after
    unfold cut?
    dsimp only
    rw [List.append_assoc, hfront, Nat.add_sub_cancel_left, htext]
    exact if_pos ⟨rfl, rfl⟩

theorem exists_cut?_eq_some {t : Text} {i j : Nat} (hi : t.IsBoundary i) (hj : t.IsBoundary j)
    (h : i ≤ j) : ∃ w, t.cut? i j = some w := by
  obtain ⟨u, after, rfl, rfl⟩ := hi
  obtain ⟨v, rest, ht, rfl⟩ := hj
  rcases List.append_eq_append_iff.mp ht with ⟨w, rfl, rfl⟩ | ⟨w, rfl, rfl⟩
  · exact ⟨w, cut?_eq_some_iff.mpr ⟨u, rest, by simp, rfl, (byteSize_append u w).symm⟩⟩
  · rw [byteSize_append] at h
    have hw : Text.byteSize w = 0 := by omega
    exact ⟨[], cut?_eq_some_iff.mpr ⟨v ++ w, after, by simp, rfl, by simp [hw]⟩⟩

/-- A character of two texts is in the first one or behind it. -/
theorem append_eq_append_cons {s t u v : Text} {c : Char} (h : s ++ t = u ++ c :: v) :
    (∃ r, s = u ++ c :: r) ∨ ∃ u', u = s ++ u' ∧ t = u' ++ c :: v := by
  rcases List.append_eq_append_iff.mp h with ⟨u', hu, ht⟩ | ⟨r, hs, hr⟩
  · exact Or.inr ⟨u', hu, ht⟩
  · cases r with
    | nil => exact Or.inr ⟨[], by simpa using hs.symm, hr.symm⟩
    | cons d r =>
      obtain ⟨rfl, -⟩ := List.cons.inj hr
      exact Or.inl ⟨r, hs⟩

/-- The characters that begin in the span are those of the slice. -/
theorem IsSlice.mem_of_contains {t w u v : Text} {s : Span} {c : Char} (h : t.IsSlice s w)
    (ht : t = u ++ c :: v) (hs : s.contains u.byteSize = true) : c ∈ w := by
  obtain ⟨before, after, rfl, hstart, hstop⟩ := h
  have hc := c.utf8Size_pos
  simp only [Span.contains, Bool.and_eq_true, decide_eq_true_eq] at hs
  rw [List.append_assoc] at ht
  rcases append_eq_append_cons ht with ⟨r, rfl⟩ | ⟨u', rfl, hrest⟩
  · simp only [byteSize_append, byteSize_cons] at hstart
    omega
  · rcases append_eq_append_cons hrest with ⟨r, rfl⟩ | ⟨u'', rfl, -⟩
    · simp
    · simp only [byteSize_append] at hs
      omega

theorem IsSlice.exists_of_mem {t w : Text} {s : Span} {c : Char} (h : t.IsSlice s w) (hc : c ∈ w) :
    ∃ u v, t = u ++ c :: v ∧ s.contains u.byteSize = true := by
  obtain ⟨before, after, rfl, hstart, hstop⟩ := h
  obtain ⟨x, y, rfl⟩ := List.append_of_mem hc
  have hpos := c.utf8Size_pos
  refine ⟨before ++ x, y ++ after, by simp, ?_⟩
  simp only [byteSize_append, byteSize_cons] at hstop
  simp only [Span.contains, byteSize_append, Bool.and_eq_true, decide_eq_true_eq]
  omega

/-- Each of the spans, which begin at or behind the offset `i` where the text does, gives way to
`new`; the bytes between them are copied. -/
def overwrite (new : Text) : Nat → List Span → Text → Text
  | _, [], t => t
  | i, s :: ss, t =>
    let (kept, r) := t.splitAtByte (s.start - i)
    kept ++ new ++ overwrite new s.stop ss (r.splitAtByte s.size).2

theorem overwrite_append (new : Text) {i : Nat} {ss : List Span} {u : Text}
    (h : ∀ s ∈ ss.head?, i + u.byteSize ≤ s.start) (t : Text) :
    overwrite new i ss (u ++ t) = u ++ overwrite new (i + u.byteSize) ss t := by
  cases ss with
  | nil => rfl
  | cons s ss =>
    have hs := h s (by simp)
    have hsub : s.start - i = u.byteSize + (s.start - (i + u.byteSize)) := by omega
    simp only [overwrite]
    rw [hsub, splitAtByte_byteSize_add]
    simp

theorem overwrite_slice (new : Text) (i : Nat) (ss : List Span) (w t : Text) :
    overwrite new i (⟨i, i + w.byteSize⟩ :: ss) (w ++ t) =
      new ++ overwrite new (i + w.byteSize) ss t := by
  simp [overwrite, Span.size]

end Text

/-- The spans are not empty and fill the range from `i` to `j`, each one beginning where the one
before it ends. -/
def Span.Tile : Nat → Nat → List Span → Prop
  | i, j, [] => i = j
  | i, j, s :: ss => s.start = i ∧ s.start < s.stop ∧ Span.Tile s.stop j ss

namespace Token

theorem WellFormed.source_ne_nil {t : Token} {ts : List Token} (h : WellFormed (t :: ts)) :
    t.source ≠ [] := by
  cases t with
  | text w => exact (wellFormed_text_cons.mp h).1
  | literal c | unterminated c => simp [source]

theorem map_fst_place (i : Nat) (ts : List Token) : (place i ts).map Prod.fst = ts := by
  induction ts generalizing i with
  | nil => rfl
  | cons t ts ih => simp [place, ih]

theorem tile_place {ts : List Token} (h : WellFormed ts) (i : Nat) :
    Span.Tile i (i + (render ts).byteSize) ((place i ts).map Prod.snd) := by
  induction ts generalizing i with
  | nil => simp [place, Span.Tile]
  | cons t ts ih =>
    have hpos := Text.byteSize_pos h.source_ne_nil
    have htail := ih h.tail (i + t.source.byteSize)
    rw [Nat.add_assoc, ← Text.byteSize_append, ← render_cons] at htail
    exact ⟨rfl, Nat.lt_add_of_pos_right hpos, htail⟩

/-- Behind a text `u`, tokens take the slices that hold what they stand for. -/
theorem isSlice_of_mem_place {u : Text} {ts : List Token} {p : Token × Span}
    (h : p ∈ place u.byteSize ts) : Text.IsSlice (u ++ render ts) p.2 p.1.source := by
  induction ts generalizing u with
  | nil => simp [place] at h
  | cons t ts ih =>
    simp only [place, List.mem_cons] at h
    rcases h with rfl | h
    · exact ⟨u, render ts, by simp, rfl, rfl⟩
    · rw [← Text.byteSize_append] at h
      simpa using ih h

theorem isSlice_of_mem_placed {t : Text} {p : Token × Span} (h : p ∈ placed t) :
    t.IsSlice p.2 p.1.source := by
  have hs := isSlice_of_mem_place (u := []) h
  rwa [List.nil_append, render_scan] at hs

end Token

end SqlTemplate
