import Mathlib.Computability.Language
import SqlTemplate.Proofs.ByteSlices

/-! # Scanning is maximal munch

Each kind of token has a regular language. Wherever a token begins, `scan` takes the longest prefix
of the remaining text that any of the three languages holds, and only one of them holds it.
-/
namespace SqlTemplate.Token
open scoped Computability

/-- The kinds of token, without what a token carries. -/
inductive Shape where
  | text
  | literal
  | unterminated
deriving DecidableEq

def shape : Token → Shape
  | .text _ => .text
  | .literal _ => .literal
  | .unterminated _ => .unterminated

def unquoted : Language Char := {w | ∃ c, c ≠ quote ∧ w = [c]}

/-- What stands behind an opening quote: characters that are no quotes, and pairs of quotes. -/
def body : Language Char := (unquoted + {[quote, quote]})∗

/-- The expressions `[^']+`, `'([^']|'')*'` and `'([^']|'')*`. -/
def Shape.language : Shape → Language Char
  | .text => unquoted * unquoted∗
  | .literal => {[quote]} * body * {[quote]}
  | .unterminated => {[quote]} * body

/-- The token for a slice: a content is what stands between the quotes, or behind the only one,
with each pair of quotes from left to right replaced by one. -/
def Shape.token : Shape → Text → Token
  | .text, slice => .text slice
  | .literal, slice => .literal (Text.replace slice.tail.dropLast [quote, quote] [quote])
  | .unterminated, slice => .unterminated (Text.replace slice.tail [quote, quote] [quote])

theorem token_shape_source (t : Token) : t.shape.token t.source = t := by
  cases t with
  | text w => rfl
  | literal c => simp [shape, Shape.token, source, replace_doubleQuotes]
  | unterminated c => simp [shape, Shape.token, source, replace_doubleQuotes]

/-- The bodies are the contents with every quote doubled. -/
theorem mem_body_iff {w : Text} : w ∈ body ↔ ∃ c, w = doubleQuotes c := by
  constructor
  · intro h
    obtain ⟨pieces, rfl, hp⟩ := Language.mem_kstar.mp h
    clear h
    induction pieces with
    | nil => exact ⟨[], rfl⟩
    | cons p pieces ih =>
      have htail : ∀ y ∈ pieces, y ∈ unquoted + {[quote, quote]} := fun y hy => hp y (by simp [hy])
      obtain ⟨c, hc⟩ := ih htail
      rw [List.flatten_cons, hc]
      rcases (Language.mem_add _ _ _).mp (hp p (by simp)) with ⟨x, hx, rfl⟩ | hpair
      · exact ⟨x :: c, (doubleQuotes_cons_of_ne hx c).symm⟩
      · obtain rfl : p = [quote, quote] := hpair
        exact ⟨quote :: c, (doubleQuotes_quote_cons c).symm⟩
  · rintro ⟨c, rfl⟩
    let piece (x : Char) : Text := if x = quote then [quote, quote] else [x]
    refine Language.mem_kstar.mpr ⟨c.map piece, by simp [doubleQuotes, piece, List.flatMap_def], ?_⟩
    intro y hy
    obtain ⟨x, -, rfl⟩ := List.mem_map.mp hy
    by_cases hx : x = quote
    · simp only [piece, hx, if_true]
      exact Or.inr rfl
    · exact Or.inl ⟨x, hx, by simp [piece, hx]⟩

theorem mem_unquoted_kstar_iff {w : Text} : w ∈ unquoted∗ ↔ quote ∉ w := by
  constructor
  · intro h
    obtain ⟨pieces, rfl, hp⟩ := Language.mem_kstar.mp h
    intro hq
    obtain ⟨p, hmem, hqp⟩ := List.mem_flatten.mp hq
    obtain ⟨x, hx, rfl⟩ := hp p hmem
    exact hx (List.mem_singleton.mp hqp).symm
  · intro hq
    refine Language.mem_kstar.mpr ⟨w.map fun x => [x], by rw [← List.flatMap_def]; simp, ?_⟩
    intro y hy
    obtain ⟨x, hx, rfl⟩ := List.mem_map.mp hy
    exact ⟨x, fun h => hq (h ▸ hx), rfl⟩

theorem mem_text_iff {w : Text} : w ∈ Shape.text.language ↔ w ≠ [] ∧ quote ∉ w := by
  simp only [Shape.language, Language.mem_mul, mem_unquoted_kstar_iff]
  constructor
  · rintro ⟨_, ⟨x, hx, rfl⟩, v, hv, rfl⟩
    simp [hv, Ne.symm hx]
  · rintro ⟨hne, hq⟩
    cases w with
    | nil => exact absurd rfl hne
    | cons x v =>
      simp only [List.mem_cons, not_or] at hq
      exact ⟨[x], ⟨x, Ne.symm hq.1, rfl⟩, v, hq.2, rfl⟩

theorem mem_unterminated_iff {w : Text} :
    w ∈ Shape.unterminated.language ↔ ∃ c, w = quote :: doubleQuotes c := by
  simp only [Shape.language, Language.mem_mul, mem_body_iff]
  constructor
  · rintro ⟨_, rfl, _, ⟨c, rfl⟩, rfl⟩
    exact ⟨c, rfl⟩
  · rintro ⟨c, rfl⟩
    exact ⟨[quote], rfl, doubleQuotes c, ⟨c, rfl⟩, rfl⟩

theorem mem_literal_iff {w : Text} :
    w ∈ Shape.literal.language ↔ ∃ c, w = quote :: (doubleQuotes c ++ [quote]) := by
  change w ∈ Shape.unterminated.language * {[quote]} ↔ _
  simp only [Language.mem_mul, mem_unterminated_iff]
  constructor
  · rintro ⟨_, ⟨c, rfl⟩, _, rfl, rfl⟩
    exact ⟨c, rfl⟩
  · rintro ⟨c, rfl⟩
    exact ⟨quote :: doubleQuotes c, ⟨c, rfl⟩, [quote], rfl, rfl⟩

/-- The slice is the longest prefix of the text in any of the languages, and in one only. -/
structure Longest (k : Shape) (slice t : Text) : Prop where
  ne_nil : slice ≠ []
  isPrefix : slice <+: t
  mem : slice ∈ k.language
  longest : ∀ k' w, w <+: t → w ∈ Shape.language k' → w <+: slice
  only : ∀ k', slice ∈ Shape.language k' → k' = k

theorem Longest.unique {k k' : Shape} {w w' t : Text} (h : Longest k w t) (h' : Longest k' w' t) :
    k = k' ∧ w = w' := by
  have hw : w = w' :=
    (h'.longest k w h.isPrefix h.mem).eq_of_length_le
      (h.longest k' w' h'.isPrefix h'.mem).length_le
  subst hw
  exact ⟨h'.only k h.mem, rfl⟩

theorem longest_text {w r : Text} (hne : w ≠ []) (hq : quote ∉ w)
    (hr : ∀ x ∈ r.head?, x = quote) : Longest .text w (w ++ r) := by
  have hstart (v : Text) : ¬ quote :: v <+: w ++ r := by
    rintro ⟨x, hx⟩
    cases w with
    | nil => exact hne rfl
    | cons y w => exact hq (by simp [(List.cons.inj hx).1])
  refine ⟨hne, List.prefix_append w r, mem_text_iff.mpr ⟨hne, hq⟩, ?_, ?_⟩
  · intro k v hv hk
    cases k with
    | text =>
      rcases List.prefix_or_prefix_of_prefix hv (List.prefix_append w r) with h | ⟨x, rfl⟩
      · exact h
      · have hxr := (List.prefix_append_right_inj w).mp hv
        cases x with
        | nil => simp
        | cons y x =>
          obtain ⟨z, rfl⟩ := hxr
          have hy : y = quote := hr y (by simp)
          exact absurd (mem_text_iff.mp hk).2 (by simp [hy])
    | literal =>
      obtain ⟨c, rfl⟩ := mem_literal_iff.mp hk
      exact absurd hv (hstart _)
    | unterminated =>
      obtain ⟨c, rfl⟩ := mem_unterminated_iff.mp hk
      exact absurd hv (hstart _)
  · intro k hk
    cases k with
    | text => rfl
    | literal =>
      obtain ⟨c, rfl⟩ := mem_literal_iff.mp hk
      simp at hq
    | unterminated =>
      obtain ⟨c, rfl⟩ := mem_unterminated_iff.mp hk
      simp at hq

/-- A body does not reach behind a quote that stands alone. -/
theorem doubleQuotes_prefix_of_lone_quote {c d r : Text}
    (h : doubleQuotes d <+: doubleQuotes c ++ quote :: r) (hr : ∀ x ∈ r.head?, x ≠ quote) :
    doubleQuotes d <+: doubleQuotes c := by
  rcases List.prefix_or_prefix_of_prefix h (List.prefix_append _ _) with hd | ⟨x, hx⟩
  · exact hd
  · obtain ⟨e, rfl, rfl⟩ := doubleQuotes_eq_append hx.symm
    rw [doubleQuotes_append, List.prefix_append_right_inj] at h
    obtain ⟨y, hy⟩ := h
    cases hde : doubleQuotes e with
    | nil => simp [hde]
    | cons z v =>
      rw [hde, List.cons_append] at hy
      obtain ⟨rfl, rfl⟩ := List.cons.inj hy
      obtain ⟨f, -, rfl⟩ := doubleQuotes_eq_quote_cons hde
      exact absurd rfl (hr quote (by simp))

theorem longest_literal {c r : Text} (hr : ∀ x ∈ r.head?, x ≠ quote) :
    Longest .literal (quote :: (doubleQuotes c ++ [quote]))
      (quote :: (doubleQuotes c ++ [quote]) ++ r) := by
  have hpre : quote :: (doubleQuotes c ++ [quote]) <+: quote :: (doubleQuotes c ++ [quote]) ++ r :=
    List.prefix_append _ _
  have hbody {d : Text} {v : Text} (hv : doubleQuotes d ++ v <+: doubleQuotes c ++ quote :: r) :
      doubleQuotes d <+: doubleQuotes c :=
    doubleQuotes_prefix_of_lone_quote ((List.prefix_append _ _).trans hv) hr
  refine ⟨by simp, hpre, mem_literal_iff.mpr ⟨c, rfl⟩, ?_, ?_⟩
  · intro k v hv hk
    -- both are prefixes of one text, so only their lengths are left to compare
    refine List.prefix_of_prefix_length_le hv hpre ?_
    cases k with
    | text =>
      obtain ⟨hne, hq⟩ := mem_text_iff.mp hk
      cases v with
      | nil => exact absurd rfl hne
      | cons y v =>
        obtain ⟨x, hx⟩ := hv
        exact absurd hq (by simp [(List.cons.inj hx).1])
    | literal =>
      obtain ⟨d, rfl⟩ := mem_literal_iff.mp hk
      have hd := (hbody (by simpa using hv)).length_le
      simpa using hd
    | unterminated =>
      obtain ⟨d, rfl⟩ := mem_unterminated_iff.mp hk
      have hd := (hbody (v := []) (by simpa using hv)).length_le
      simp only [List.length_cons, List.length_append]
      omega
  · intro k hk
    cases k with
    | literal => rfl
    | text => exact absurd (mem_text_iff.mp hk).2 (by simp)
    | unterminated =>
      obtain ⟨d, hd⟩ := mem_unterminated_iff.mp hk
      exact absurd (List.cons.inj hd).2.symm (doubleQuotes_ne_append_quote d c)

theorem longest_unterminated (c : Text) :
    Longest .unterminated (quote :: doubleQuotes c) (quote :: doubleQuotes c) := by
  refine ⟨by simp, List.prefix_refl _, mem_unterminated_iff.mpr ⟨c, rfl⟩, fun _ _ hv _ => hv, ?_⟩
  intro k hk
  cases k with
  | unterminated => rfl
  | text => exact absurd (mem_text_iff.mp hk).2 (by simp)
  | literal =>
    obtain ⟨d, hd⟩ := mem_literal_iff.mp hk
    exact absurd (List.cons.inj hd).2 (doubleQuotes_ne_append_quote c d)

theorem WellFormed.longest {t : Token} {ts : List Token} (h : WellFormed (t :: ts)) :
    Longest t.shape t.source (t.source ++ render ts) := by
  cases t with
  | text w =>
    obtain ⟨hne, hq, hu, -⟩ := wellFormed_text_cons.mp h
    exact longest_text hne hq (WellFormed.head_eq_quote hu)
  | literal c =>
    obtain ⟨hu, hw⟩ := wellFormed_literal_cons.mp h
    exact longest_literal (hw.apart.head_ne_quote hu)
  | unterminated c =>
    obtain rfl := wellFormed_unterminated_cons.mp h
    simpa [source, shape] using longest_unterminated c

/-- The tokens of a text, with their spans from the offset `i` on, when each one in turn is the
longest match for what the ones before it leave. -/
inductive MaximalMunch : Nat → Text → List (Token × Span) → Prop where
  | done (i : Nat) : MaximalMunch i [] []
  | take {i : Nat} {k : Shape} {slice rest : Text} {ps : List (Token × Span)}
      (first : Longest k slice (slice ++ rest)) (next : MaximalMunch (i + slice.byteSize) rest ps) :
      MaximalMunch i (slice ++ rest) ((k.token slice, ⟨i, i + slice.byteSize⟩) :: ps)

theorem MaximalMunch.unique {i : Nat} {t : Text} {ps qs : List (Token × Span)}
    (h : MaximalMunch i t ps) (h' : MaximalMunch i t qs) : ps = qs := by
  induction h generalizing qs with
  | done i =>
    generalize ht : ([] : Text) = t at h'
    cases h' with
    | done => rfl
    | take first _ => exact absurd (List.append_eq_nil_iff.mp ht.symm).1 first.ne_nil
  | @take i k slice rest ps first next ih =>
    generalize ht : slice ++ rest = t at h'
    cases h' with
    | done => exact absurd (List.append_eq_nil_iff.mp ht).1 first.ne_nil
    | @take _ k' slice' rest' qs first' next' =>
      rw [ht] at first
      obtain ⟨rfl, rfl⟩ := first.unique first'
      obtain rfl := List.append_cancel_left ht
      rw [ih next']

theorem WellFormed.maximalMunch {ts : List Token} (h : WellFormed ts) (i : Nat) :
    MaximalMunch i (render ts) (place i ts) := by
  induction ts generalizing i with
  | nil => exact .done i
  | cons t ts ih =>
    have hm := MaximalMunch.take (i := i) h.longest (ih h.tail _)
    rwa [token_shape_source] at hm

theorem exists_longest {t : Text} (ht : t ≠ []) : ∃ k slice, Longest k slice t := by
  obtain ⟨hw, hr⟩ := reads_scan t
  cases hs : scan t with
  | nil =>
    rw [hs] at hr
    exact absurd hr.symm ht
  | cons u us =>
    rw [hs] at hw hr
    refine ⟨u.shape, u.source, ?_⟩
    rw [← hr, render_cons]
    exact hw.longest

/-- Maximal munch over the three languages determines the tokens of every text together with their
spans, and they are the ones scanned. It finds a match at every offset of the text, so that the
spans fill the text from end to end; they begin and end between characters, and only the last token
can be a literal left open. -/
theorem placed_maximalMunch (t : Text) :
    (∀ ps, MaximalMunch 0 t ps ↔ ps = placed t) ∧
    (∀ rest, rest <:+ t → rest ≠ [] → ∃ k slice, Longest k slice rest) ∧
    Span.Tile 0 t.byteSize ((placed t).map Prod.snd) ∧
    (∀ p ∈ placed t, t.IsBoundary p.2.start ∧ t.IsBoundary p.2.stop) ∧
    ∀ p ∈ (placed t).dropLast, ∀ content, p.1 ≠ .unterminated content := by
  have hmunch : MaximalMunch 0 t (placed t) := by
    have h := (wellFormed_scan t).maximalMunch 0
    rwa [render_scan] at h
  refine ⟨?_, fun rest _ hne => exists_longest hne, ?_, ?_, ?_⟩
  · intro ps
    constructor
    · intro h
      exact h.unique hmunch
    · rintro rfl
      exact hmunch
  · have h := tile_place (wellFormed_scan t) 0
    rwa [render_scan, Nat.zero_add] at h
  · intro p hp
    have hs := isSlice_of_mem_placed hp
    exact ⟨hs.boundary_start, hs.boundary_stop⟩
  · intro p hp content hc
    have hlast := (wellFormed_scan t).openLast content
    have hm : p.1 ∈ ((placed t).map Prod.fst).dropLast := by
      rw [← List.map_dropLast]
      exact List.mem_map_of_mem hp
    rw [placed, map_fst_place, hc] at hm
    exact hlast hm

end SqlTemplate.Token
