import Mathlib.Data.Nat.Digits.Defs
import SqlTemplate.Listing
import SqlTemplate.Proofs.QuoteParity

/-! # A listing is read back line by line

A statement has no line feed that its template does not have, since neither placeholders nor halved
quotes are one. So the line feeds of a listing are the ends of its lines, whatever the lines look
like, and the listing tells the SQL and the patterns.
-/
namespace SqlTemplate

theorem Text.lineFeed_not_mem_decimal (n : Nat) : '\n' ∉ decimal n := by
  intro h
  have hdigit := Nat.isDigit_of_mem_toDigits (by decide) (by decide) h
  exact absurd hdigit (by decide)

namespace Statement

section Characters

variable (policy : Policy) (t : Text) {c : Char}

theorem mem_of_mem_sql (h : c ∈ (ofTemplate policy t).sql) : c = placeholder ∨ c ∈ t := by
  rw [sql_ofTemplate, List.mem_flatMap] at h
  obtain ⟨u, hu, hc⟩ := h
  rw [Token.emitted] at hc
  split at hc
  · exact .inl (List.mem_singleton.mp hc)
  · right
    rw [← Token.render_scan t, Token.render, List.mem_flatMap]
    exact ⟨u, hu, hc⟩

theorem mem_of_mem_pattern {pattern : Text} (h : pattern ∈ (ofTemplate policy t).patterns)
    (hc : c ∈ pattern) (hne : c ≠ quote) : c ∈ t := by
  obtain ⟨g, hg, rfl⟩ := List.mem_map.mp h
  have hslice := isSlice_of_mem_segments policy t (List.mem_of_mem_filter hg)
  obtain ⟨u, v, rfl, -⟩ := hslice.exists_of_mem ((Token.mem_source_iff_of_ne hne g).mpr hc)
  exact List.mem_append_right _ List.mem_cons_self

end Characters

/-- A pattern behind the number of its placeholder, counted from zero. -/
def numbered (p : Text × Nat) : Text := Text.decimal (p.2 + 1) ++ ':' :: ' ' :: p.1

/-- What is on the lines of a listing. -/
def lines (s : Statement) : List Text := s.sql :: s.patterns.zipIdx.map numbered

theorem listing_eq_flatMap (s : Statement) : s.listing = s.lines.flatMap fun l => l ++ ['\n'] := by
  have hline (p : Text × Nat) : patternLine (p.2 + 1) p.1 = numbered p ++ ['\n'] := by
    simp [patternLine, numbered]
  simp only [listing, lines, hline, List.flatMap_cons, List.flatMap_map]

theorem length_lines (s : Statement) : s.lines.length = s.patterns.length + 1 := by
  rw [lines, List.length_cons, List.length_map, List.length_zipIdx]

theorem flatMap_lineFeed_eq_intercalate (ls : List Text) :
    ls.flatMap (fun l => l ++ ['\n']) = ['\n'].intercalate (ls ++ [[]]) := by
  induction ls with
  | nil => rfl
  | cons l ls ih =>
    rw [List.flatMap_cons, ih, List.cons_append,
      List.intercalate_cons_of_ne_nil (List.concat_ne_nil _ _), List.append_assoc]

theorem numbered_injective {ps qs : List Text} {n : Nat}
    (h : (ps.zipIdx n).map numbered = (qs.zipIdx n).map numbered) : ps = qs := by
  induction ps generalizing n qs with
  | nil => cases qs with
    | nil => rfl
    | cons q qs => cases h
  | cons p ps ih => cases qs with
    | nil => cases h
    | cons q qs =>
      obtain ⟨hline, hlines⟩ := List.cons.inj h
      -- lines at the same place have the same number
      obtain rfl : p = q := by simpa [numbered] using hline
      rw [ih hlines]

theorem lines_injective {s s' : Statement} (h : s.lines = s'.lines) :
    s.sql = s'.sql ∧ s.patterns = s'.patterns := by
  obtain ⟨hsql, hpatterns⟩ := List.cons.inj h
  exact ⟨hsql, numbered_injective hpatterns⟩

section
variable {policy : Policy} {t : Text} {s : Statement}

theorem lineFeed_not_mem_lines (h : prepare policy t = .ok s) (ht : '\n' ∉ t) :
    ∀ l ∈ s.lines, '\n' ∉ l := by
  obtain rfl := eq_ofTemplate_of_prepare policy t h
  intro l hl hmem
  rcases List.mem_cons.mp hl with rfl | hl
  · rcases mem_of_mem_sql policy t hmem with hc | hc
    · exact absurd hc (by decide)
    · exact ht hc
  · obtain ⟨⟨pattern, n⟩, hp, rfl⟩ := List.mem_map.mp hl
    have hpattern : pattern ∈ (ofTemplate policy t).patterns := List.fst_mem_of_mem_zipIdx hp
    rcases List.mem_append.mp hmem with hc | hc
    · exact Text.lineFeed_not_mem_decimal _ hc
    · have hc : '\n' ∈ pattern := by simpa using hc
      exact ht (mem_of_mem_pattern policy t hpattern hc (by decide))

theorem splitOn_listing (h : prepare policy t = .ok s) (ht : '\n' ∉ t) :
    s.listing.splitOn '\n' = s.lines ++ [[]] := by
  rw [listing_eq_flatMap, flatMap_lineFeed_eq_intercalate]
  refine List.splitOn_intercalate '\n' ?_ (List.concat_ne_nil _ _)
  intro l hl
  rcases List.mem_append.mp hl with hl | hl
  · exact lineFeed_not_mem_lines h ht l hl
  · rw [List.mem_singleton.mp hl]
    exact List.not_mem_nil

/-- Without line feeds in the template, the listing is cut at its line feeds into the SQL and the
numbered patterns, and no other SQL or patterns have the same listing. -/
theorem listing_read_back (h : prepare policy t = .ok s) (ht : '\n' ∉ t) :
    s.listing = s.lines.flatMap (fun l => l ++ ['\n']) ∧
    s.listing.splitOn '\n' = s.lines ++ [[]] ∧ s.lines.length = s.patterns.length + 1 ∧
    s.lines[0]? = some s.sql ∧
    (∀ k pattern, s.patterns[k]? = some pattern →
      s.lines[k + 1]? = some (Text.decimal (k + 1) ++ ':' :: ' ' :: pattern)) ∧
    ∀ policy' t' s', prepare policy' t' = .ok s' → '\n' ∉ t' → s'.listing = s.listing →
      s'.sql = s.sql ∧ s'.patterns = s.patterns := by
  refine ⟨listing_eq_flatMap s, splitOn_listing h ht, length_lines s, rfl, ?_, ?_⟩
  · intro k pattern hk
    simp [lines, numbered, hk]
  · intro policy' t' s' h' ht' hsame
    have hsplit := splitOn_listing h' ht'
    rw [hsame, splitOn_listing h ht] at hsplit
    exact lines_injective (List.append_cancel_right hsplit).symm

theorem listing_read_back_of_numbers_in_template :
    ∃ s, prepare .pattern "1: %'2: it''s %''3: %".toList = .ok s ∧
      s.listing.splitOn '\n' = ["1: %?".toList, "1: 2: it's %'3: %".toList, []] := by
  have hs : prepare .pattern "1: %'2: it''s %''3: %".toList =
      .ok ⟨"1: %?".toList, ["2: it's %'3: %".toList],
        [⟨.pattern, ⟨4, 21⟩, "2: it's %'3: %".toList, false⟩], some ⟨4, 21⟩⟩ := by
    decide +kernel
  exact ⟨_, hs, (listing_read_back hs (by decide)).2.1⟩

end

/-- With a line feed, text of the SQL can be taken for a pattern. -/
example : (ofTemplate .verbatim "?\n1: %".toList).listing =
    (ofTemplate .verbatim "'%'".toList).listing := by
  decide +kernel

end Statement
end SqlTemplate
