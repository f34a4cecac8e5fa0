import Mathlib.Data.List.Chain
import SqlTemplate.Proofs.QuotePairs

/-! # Scanning and rendering are inverse to each other

A token list is well-formed when no two of its tokens could have been scanned as one. Each text has
exactly one well-formed list of tokens that renders as it, and `scan` finds that list.
-/
namespace SqlTemplate.Token

def isText : Token → Bool
  | .text _ => true
  | .literal _ | .unterminated _ => false

/-- The text that tokens stand for. -/
def render (ts : List Token) : Text := ts.flatMap source

@[simp] theorem render_nil : render [] = [] := rfl

@[simp] theorem render_cons (t : Token) (ts : List Token) :
    render (t :: ts) = t.source ++ render ts := by
  simp [render]

@[simp] theorem render_append (ts us : List Token) : render (ts ++ us) = render ts ++ render us :=
  List.flatMap_append

/-- Text outside literals is cut neither too short nor too long, a literal never touches another
one, and nothing follows a literal that is left open. -/
structure WellFormed (ts : List Token) : Prop where
  slices : ∀ slice, Token.text slice ∈ ts → slice ≠ [] ∧ quote ∉ slice
  alternate : ts.IsChain fun t u => t.isText ≠ u.isText
  openLast : ∀ content, Token.unterminated content ∉ ts.dropLast

theorem wellFormed_nil : WellFormed [] := ⟨by simp, .nil, by simp⟩

/-- What a token asks of the list behind it. -/
theorem wellFormed_cons {t : Token} {ts : List Token} :
    WellFormed (t :: ts) ↔ (∀ slice, t = .text slice → slice ≠ [] ∧ quote ∉ slice) ∧
      (∀ u ∈ ts.head?, t.isText ≠ u.isText) ∧ (ts ≠ [] → ∀ c, t ≠ .unterminated c) ∧
      WellFormed ts := by
  constructor
  · rintro ⟨hs, ha, ho⟩
    refine ⟨fun slice h => hs slice (by simp [h]), (List.isChain_cons.mp ha).1, ?_,
      fun slice h => hs slice (by simp [h]), (List.isChain_cons.mp ha).2, ?_⟩
    · rintro hne c rfl
      exact ho c (by simp [List.dropLast_cons_of_ne_nil hne])
    · intro c hc
      have hne : ts ≠ [] := by rintro rfl; simp at hc
      exact ho c (by simp [List.dropLast_cons_of_ne_nil hne, hc])
  · rintro ⟨hs, ha, ho, ht⟩
    refine ⟨?_, List.isChain_cons.mpr ⟨ha, ht.alternate⟩, ?_⟩
    · intro slice h
      rcases List.mem_cons.mp h with h | h
      · exact hs slice h.symm
      · exact ht.slices slice h
    · intro c hc
      by_cases hne : ts = []
      · subst hne; simp at hc
      · rw [List.dropLast_cons_of_ne_nil hne] at hc
        rcases List.mem_cons.mp hc with h | h
        · exact ho hne c h.symm
        · exact ht.openLast c h

theorem WellFormed.tail {t : Token} {ts : List Token} (h : WellFormed (t :: ts)) : WellFormed ts :=
  (wellFormed_cons.mp h).2.2.2

theorem wellFormed_text_cons {w : Text} {ts : List Token} :
    WellFormed (.text w :: ts) ↔
      w ≠ [] ∧ quote ∉ w ∧ (∀ u ∈ ts.head?, u.isText = false) ∧ WellFormed ts := by
  simp [wellFormed_cons, isText, and_assoc]

theorem wellFormed_literal_cons {c : Text} {ts : List Token} :
    WellFormed (.literal c :: ts) ↔ (∀ u ∈ ts.head?, u.isText = true) ∧ WellFormed ts := by
  simp [wellFormed_cons, isText]

theorem wellFormed_unterminated_cons {c : Text} {ts : List Token} :
    WellFormed (.unterminated c :: ts) ↔ ts = [] := by
  cases ts with
  | nil => simp [wellFormed_cons, wellFormed_nil]
  | cons u us => simp [wellFormed_cons]

theorem WellFormed.head_eq_quote {ts : List Token} (h : ∀ u ∈ ts.head?, u.isText = false) :
    ∀ x ∈ (render ts).head?, x = quote := by
  cases ts with
  | nil => simp
  | cons t ts => cases t with
    | text w => simp [isText] at h
    | literal c | unterminated c => simp [source, eq_comm]

/-- Texts may touch each other, literals may not, and nothing follows a literal that is left open. -/
inductive Apart : List Token → Prop where
  | nil : Apart []
  | text {w : Text} {ts : List Token} (ne_nil : w ≠ []) (quoteFree : quote ∉ w)
      (rest : Apart ts) : Apart (.text w :: ts)
  | literal {c : Text} {ts : List Token} (next : ∀ u ∈ ts.head?, u.isText = true)
      (rest : Apart ts) : Apart (.literal c :: ts)
  | unterminated {c : Text} : Apart [.unterminated c]

theorem WellFormed.apart {ts : List Token} (h : WellFormed ts) : Apart ts := by
  induction ts with
  | nil => exact .nil
  | cons t ts ih => cases t with
    | text w =>
      obtain ⟨hne, hq, -, hw⟩ := wellFormed_text_cons.mp h
      exact .text hne hq (ih hw)
    | literal c =>
      obtain ⟨hu, hw⟩ := wellFormed_literal_cons.mp h
      exact .literal hu (ih hw)
    | unterminated c =>
      obtain rfl := wellFormed_unterminated_cons.mp h
      exact .unterminated

theorem Apart.head_ne_quote {ts : List Token} (h : Apart ts)
    (hu : ∀ u ∈ ts.head?, u.isText = true) : ∀ x ∈ (render ts).head?, x ≠ quote := by
  cases h with
  | nil => simp
  | literal | unterminated => simp [isText] at hu
  | @text w ts hne hq _ =>
    obtain ⟨y, v, rfl⟩ := List.exists_cons_of_ne_nil hne
    rintro x hx rfl
    simp [source] at hx
    simp [hx] at hq

structure Reads (ts : List Token) (t : Text) : Prop where
  wellFormed : WellFormed ts
  render_eq : render ts = t

theorem Reads.consText {ts : List Token} {t : Text} (h : Reads ts t) {x : Char} (hx : x ≠ quote) :
    Reads (consText x ts) (x :: t) := by
  obtain ⟨hw, rfl⟩ := h
  cases ts with
  | nil =>
    refine ⟨?_, by simp [Token.consText, source]⟩
    simp [Token.consText, wellFormed_text_cons, wellFormed_nil, Ne.symm hx]
  | cons u us => cases u with
    | text w =>
      obtain ⟨-, hq, hu, hw'⟩ := wellFormed_text_cons.mp hw
      refine ⟨?_, by simp [Token.consText, source]⟩
      exact wellFormed_text_cons.mpr ⟨by simp, by simp [Ne.symm hx, hq], hu, hw'⟩
    | literal c | unterminated c =>
      refine ⟨?_, by simp [Token.consText, source]⟩
      exact wellFormed_text_cons.mpr ⟨by simp, by simp [Ne.symm hx], by simp [isText], hw⟩

/-- The character goes behind the opening quote of the leading literal. -/
theorem Reads.consContent {ts : List Token} {t : Text} (h : Reads ts (quote :: t)) (x : Char) :
    Reads (consContent x ts) (quote :: (doubleQuotes [x] ++ t)) := by
  obtain ⟨hw, hr⟩ := h
  cases ts with
  | nil => simp at hr
  | cons u us => cases u with
    | text w =>
      have hq := hw.apart.head_ne_quote (by simp [isText])
      simp [hr] at hq
    | literal c =>
      have hc : doubleQuotes (x :: c) = doubleQuotes [x] ++ doubleQuotes c :=
        doubleQuotes_append [x] c
      simp only [render_cons, source, List.cons_append, List.cons.injEq, true_and] at hr
      refine ⟨wellFormed_literal_cons.mpr (wellFormed_literal_cons.mp hw), ?_⟩
      simp [Token.consContent, source, hc, ← hr]
    | unterminated c =>
      have hc : doubleQuotes (x :: c) = doubleQuotes [x] ++ doubleQuotes c :=
        doubleQuotes_append [x] c
      simp only [render_cons, source, List.cons_append, List.cons.injEq, true_and] at hr
      refine ⟨wellFormed_unterminated_cons.mpr (wellFormed_unterminated_cons.mp hw), ?_⟩
      simp [Token.consContent, source, hc, ← hr]

/-- An empty literal goes in front of text that cannot turn its closing quote into a pair. -/
theorem Reads.consLiteral {ts : List Token} {t : Text} (h : Reads ts t)
    (ht : ∀ x ∈ t.head?, x ≠ quote) : Reads (.literal [] :: ts) (quote :: quote :: t) := by
  obtain ⟨hw, rfl⟩ := h
  refine ⟨wellFormed_literal_cons.mpr ⟨?_, hw⟩, by simp [source]⟩
  cases ts with
  | nil => simp
  | cons u us => cases u with
    | text w => simp [isText]
    | literal c | unterminated c => simp [source] at ht

/-- Each state of the scanner reads the characters it is given behind those it has seen: none
outside literals, the opening quote in a literal, and that and a second quote behind a quote. -/
theorem reads_scan_and (t : Text) :
    Reads (scan t) t ∧ Reads (scanLiteral t) (quote :: t) ∧
      Reads (scanQuoted t) (quote :: quote :: t) := by
  induction t with
  | nil =>
    refine ⟨⟨wellFormed_nil, rfl⟩, ⟨?_, rfl⟩, ⟨?_, rfl⟩⟩
    · exact wellFormed_unterminated_cons.mpr rfl
    · exact wellFormed_literal_cons.mpr ⟨by simp, wellFormed_nil⟩
  | cons x r ih =>
    obtain ⟨hscan, hliteral, hquoted⟩ := ih
    by_cases hx : x = quote
    · subst hx
      simp only [scan, scanLiteral, scanQuoted, if_true]
      -- a quote behind a quote is content, so the literal goes on
      refine ⟨hliteral, hquoted, ?_⟩
      simpa using hliteral.consContent quote
    · simp only [scan, scanLiteral, scanQuoted, if_neg hx]
      refine ⟨hscan.consText hx, ?_, (hscan.consText hx).consLiteral (by simpa using hx)⟩
      simpa [doubleQuotes_cons_of_ne hx] using hliteral.consContent x

theorem reads_scan (t : Text) : Reads (scan t) t := (reads_scan_and t).1

theorem wellFormed_scan (t : Text) : WellFormed (scan t) := (reads_scan t).wellFormed

@[simp] theorem render_scan (t : Text) : render (scan t) = t := (reads_scan t).render_eq

theorem scan_append_of_quoteFree {w : Text} (hq : quote ∉ w) (r : Text) :
    scan (w ++ r) = w.foldr consText (scan r) := by
  induction w with
  | nil => rfl
  | cons x w ih =>
    simp only [List.mem_cons, not_or] at hq
    rw [List.cons_append, scan, if_neg (Ne.symm hq.1), ih hq.2, List.foldr_cons]

/-- A text takes in the characters in front of it, and starts where no text follows. -/
theorem foldr_consText_of_head {w : Text} {ts : List Token} (hne : w ≠ [])
    (h : ∀ u ∈ ts.head?, u.isText = false) : w.foldr consText ts = .text w :: ts := by
  have hlast (x : Char) : consText x ts = .text [x] :: ts := by
    cases ts with
    | nil => rfl
    | cons u us => cases u with
      | text v => simp [isText] at h
      | literal c | unterminated c => rfl
  induction w with
  | nil => exact absurd rfl hne
  | cons x w ih =>
    by_cases hw : w = []
    · subst hw
      exact hlast x
    · rw [List.foldr_cons, ih hw]
      rfl

theorem scanLiteral_append (c r : Text) :
    scanLiteral (doubleQuotes c ++ r) = c.foldr consContent (scanLiteral r) := by
  induction c with
  | nil => rfl
  | cons x c ih =>
    by_cases hx : x = quote
    · subst hx
      simp [scanLiteral, scanQuoted, ih]
    · simp [doubleQuotes_cons_of_ne hx, scanLiteral, hx, ih]

theorem scanQuoted_of_head_ne {r : Text} (hr : ∀ x ∈ r.head?, x ≠ quote) :
    scanQuoted r = .literal [] :: scan r := by
  cases r with
  | nil => rfl
  | cons x r =>
    have hx : x ≠ quote := hr x (by simp)
    simp [scanQuoted, scan, hx]

theorem foldr_consContent_literal (c d : Text) (ts : List Token) :
    c.foldr consContent (.literal d :: ts) = .literal (c ++ d) :: ts := by
  induction c with
  | nil => rfl
  | cons x c ih => simp [ih, consContent]

theorem foldr_consContent_unterminated (c d : Text) (ts : List Token) :
    c.foldr consContent (.unterminated d :: ts) = .unterminated (c ++ d) :: ts := by
  induction c with
  | nil => rfl
  | cons x c ih => simp [ih, consContent]

theorem scan_literal_append (c : Text) {r : Text} (hr : ∀ x ∈ r.head?, x ≠ quote) :
    scan ((Token.literal c).source ++ r) = .literal c :: scan r := by
  simp only [source, List.cons_append, List.append_assoc, List.nil_append, scan, if_true]
  rw [scanLiteral_append, scanLiteral, if_pos rfl, scanQuoted_of_head_ne hr,
    foldr_consContent_literal, List.append_nil]

theorem scan_unterminated (c : Text) :
    scan (Token.unterminated c).source = [.unterminated c] := by
  have h := scanLiteral_append c []
  rw [List.append_nil, scanLiteral, foldr_consContent_unterminated, List.append_nil] at h
  simp [source, scan, h]

theorem scan_render_of_wellFormed {ts : List Token} (h : WellFormed ts) :
    scan (render ts) = ts := by
  induction ts with
  | nil => rfl
  | cons t ts ih =>
    have hts := ih h.tail
    rw [render_cons]
    cases t with
    | text w =>
      obtain ⟨hne, hq, hu, -⟩ := wellFormed_text_cons.mp h
      rw [source, scan_append_of_quoteFree hq, hts, foldr_consText_of_head hne hu]
    | literal c =>
      obtain ⟨hu, hw⟩ := wellFormed_literal_cons.mp h
      rw [scan_literal_append c (hw.apart.head_ne_quote hu), hts]
    | unterminated c =>
      obtain rfl := wellFormed_unterminated_cons.mp h
      rw [render_nil, List.append_nil, scan_unterminated]

/-- Scanning and rendering are inverse between texts and well-formed token lists. The content that
scanning finds in a literal is its body with the pairs of quotes replaced from left to right. -/
theorem scan_render_inverse :
    (∀ ts, WellFormed ts → scan (render ts) = ts) ∧
    (∀ t, WellFormed (scan t) ∧ render (scan t) = t) ∧
    ∀ content, (doubleQuotes content).replace [quote, quote] [quote] = content := by
  refine ⟨fun ts h => scan_render_of_wellFormed h, ?_, replace_doubleQuotes⟩
  intro t
  exact ⟨wellFormed_scan t, render_scan t⟩

end SqlTemplate.Token
