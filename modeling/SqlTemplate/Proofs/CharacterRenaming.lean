import SqlTemplate.Proofs.StatementConsistency

/-! # Characters that are no marks can be renamed

Quotes and markers decide how a template is taken apart. If every other character is replaced by one
that is no mark either, each part of the statement is replaced with its template. Characters may
change their sizes, so spans are compared by the characters in front of their ends.
-/
namespace SqlTemplate

/-- Marks and placeholders stay, and no other character becomes a mark. -/
structure KeepsMarks (f : Char → Char) : Prop where
  quote_eq : f quote = quote
  marker_eq : f marker = marker
  placeholder_eq : f placeholder = placeholder
  eq_quote : ∀ c, f c = quote → c = quote
  eq_marker : ∀ c, f c = marker → c = marker

/-- One character for all that are no marks. -/
def mask (c : Char) : Char := if c = quote ∨ c = marker then c else placeholder

theorem keepsMarks_mask : KeepsMarks mask where
  quote_eq := rfl
  marker_eq := rfl
  placeholder_eq := rfl
  eq_quote c h := by
    rw [mask] at h
    split at h
    · exact h
    · exact absurd h (by decide)
  eq_marker c h := by
    rw [mask] at h
    split at h
    · exact h
    · exact absurd h (by decide)

/-- The number of characters in front of a byte offset. -/
def Text.charsBefore (t : Text) (i : Nat) : Nat := (t.splitAtByte i).1.length

/-- A span of bytes as a span of characters. -/
def Span.inChars (t : Text) (s : Span) : Span := ⟨t.charsBefore s.start, t.charsBefore s.stop⟩

theorem Span.inChars_append (u w r : Text) :
    Span.inChars (u ++ (w ++ r)) ⟨u.byteSize, u.byteSize + w.byteSize⟩ =
      ⟨u.length, u.length + w.length⟩ := by
  rw [Span.inChars, Text.charsBefore, Text.charsBefore, Text.splitAtByte_byteSize,
    ← Text.byteSize_append, ← List.append_assoc, Text.splitAtByte_byteSize, List.length_append]

namespace Segment

def inChars (t : Text) (g : Segment) : Segment := { g with span := g.span.inChars t }

def map (f : Char → Char) (g : Segment) : Segment := { g with content := g.content.map f }

end Segment

namespace Token

variable {f : Char → Char} {policy : Policy}

def map (f : Char → Char) : Token → Token
  | .text slice => .text (slice.map f)
  | .literal content => .literal (content.map f)
  | .unterminated content => .unterminated (content.map f)

theorem map_consText (f : Char → Char) (c : Char) (ts : List Token) :
    (consText c ts).map (map f) = consText (f c) (ts.map (map f)) := by
  cases ts with
  | nil => rfl
  | cons t ts => cases t <;> rfl

theorem map_consContent (f : Char → Char) (c : Char) (ts : List Token) :
    (consContent c ts).map (map f) = consContent (f c) (ts.map (map f)) := by
  cases ts with
  | nil => rfl
  | cons t ts => cases t <;> rfl

section Renaming

variable (hf : KeepsMarks f)
include hf

/-- In each of its states the scanner asks only if a character is a quote. -/
theorem scan_map_and (t : Text) : scan (t.map f) = (scan t).map (map f) ∧
    scanLiteral (t.map f) = (scanLiteral t).map (map f) ∧
    scanQuoted (t.map f) = (scanQuoted t).map (map f) := by
  induction t with
  | nil => exact ⟨rfl, rfl, rfl⟩
  | cons c r ih =>
    obtain ⟨hscan, hliteral, hquoted⟩ := ih
    by_cases hc : c = quote
    · subst hc
      have hcontent := map_consContent f quote (scanLiteral r)
      rw [hf.quote_eq] at hcontent
      simp only [List.map_cons, hf.quote_eq, scan, scanLiteral, scanQuoted, if_true]
      exact ⟨hliteral, hquoted, by rw [hliteral, hcontent]⟩
    · have hfc : f c ≠ quote := fun h => hc (hf.eq_quote c h)
      simp only [List.map_cons, scan, scanLiteral, scanQuoted, if_neg hc, if_neg hfc, hscan,
        hliteral, map_consText, map_consContent, true_and]
      rfl

theorem scan_map (t : Text) : scan (t.map f) = (scan t).map (map f) := (scan_map_and hf t).1

theorem doubleQuotes_map (c : Text) : doubleQuotes (c.map f) = (doubleQuotes c).map f := by
  induction c with
  | nil => rfl
  | cons x c ih =>
    by_cases hx : x = quote
    · subst hx
      simp [hf.quote_eq, ih]
    · have hfx : f x ≠ quote := fun h => hx (hf.eq_quote x h)
      rw [List.map_cons, doubleQuotes_cons_of_ne hfx, doubleQuotes_cons_of_ne hx, ih, List.map_cons]

theorem source_map (t : Token) : (t.map f).source = t.source.map f := by
  cases t <;> simp [map, source, doubleQuotes_map hf, hf.quote_eq]

theorem classify_map (c : Text) : Kind.classify (c.map f) = Kind.classify c := by
  have hmem : marker ∈ c.map f ↔ marker ∈ c := by
    constructor
    · intro h
      obtain ⟨x, hx, hfx⟩ := List.mem_map.mp h
      rwa [hf.eq_marker x hfx] at hx
    · intro h
      exact List.mem_map.mpr ⟨marker, h, hf.marker_eq⟩
  simp only [Kind.classify, hmem]

theorem kind?_map (t : Token) : (t.map f).kind? policy = t.kind? policy := by
  cases t <;> simp only [map, kind?, classify_map hf]

theorem emitted_map (t : Token) : (t.map f).emitted policy = (t.emitted policy).map f := by
  rw [emitted, emitted, kind?_map hf, source_map hf]
  split
  · simp [hf.placeholder_eq]
  · rfl

theorem pattern?_map (t : Token) :
    (t.map f).pattern? policy = (t.pattern? policy).map (List.map f) := by
  rw [pattern?, pattern?, kind?_map hf]
  cases t <;> split <;> rfl

theorem segment?_map (t : Token) (s : Span) :
    segment? policy (t.map f, s) = (segment? policy (t, s)).map (Segment.map f) := by
  cases t <;> simp [map, segment?, classify_map hf, Segment.map]

/-- Behind a text `u`, renamed tokens take as many characters as the tokens did. -/
theorem place_map (u : Text) (ts : List Token) :
    (place (Text.byteSize (u.map f)) (ts.map (map f))).map
        (fun p => (p.1, p.2.inChars ((u ++ render ts).map f))) =
      (place u.byteSize ts).map fun p => (p.1.map f, p.2.inChars (u ++ render ts)) := by
  induction ts generalizing u with
  | nil => rfl
  | cons t ts ih =>
    have hstart : Text.byteSize ((u ++ t.source).map f) =
        Text.byteSize (u.map f) + (t.map f).source.byteSize := by
      rw [List.map_append, Text.byteSize_append, source_map hf]
    have hrest := ih (u ++ t.source)
    rw [hstart, Text.byteSize_append, List.append_assoc, ← render_cons] at hrest
    have hspan := Span.inChars_append (u.map f) (t.source.map f) ((render ts).map f)
    simp only [List.map_cons, place, hrest, List.cons.injEq, Prod.mk.injEq, true_and, and_true]
    rw [source_map hf, render_cons, List.map_append, List.map_append, hspan, Span.inChars_append,
      List.length_map, List.length_map]

end Renaming

theorem segment?_inChars (t : Text) (p : Token × Span) :
    segment? policy (p.1, p.2.inChars t) = (segment? policy p).map (Segment.inChars t) := by
  obtain ⟨u, s⟩ := p
  cases u <;> rfl

end Token

namespace Statement

section
variable {f : Char → Char} (hf : KeepsMarks f) (policy : Policy) (t : Text)
include hf

theorem sql_map : (ofTemplate policy (t.map f)).sql = (ofTemplate policy t).sql.map f := by
  rw [sql_ofTemplate, sql_ofTemplate, Token.scan_map hf]
  simp only [List.flatMap_map, List.map_flatMap, Token.emitted_map hf]

theorem patterns_map :
    (ofTemplate policy (t.map f)).patterns = (ofTemplate policy t).patterns.map (List.map f) := by
  rw [patterns_ofTemplate_eq_filterMap, patterns_ofTemplate_eq_filterMap, Token.scan_map hf,
    List.filterMap_map, List.map_filterMap]
  exact List.filterMap_congr fun u _ => Token.pattern?_map hf u

theorem segments_map :
    (ofTemplate policy (t.map f)).segments.map (Segment.inChars (t.map f)) =
      (ofTemplate policy t).segments.map fun g => (g.inChars t).map f := by
  have hplace := Token.place_map hf [] (Token.scan t)
  rw [List.nil_append, Token.render_scan, ← Token.scan_map hf] at hplace
  have hsegments := congrArg (List.filterMap (Token.segment? policy)) hplace
  simp only [List.filterMap_map, Function.comp_def, Token.segment?_inChars, Token.segment?_map hf,
    Option.map_map] at hsegments
  rw [← List.map_filterMap, ← List.map_filterMap] at hsegments
  exact hsegments

theorem openSegment_map :
    (ofTemplate policy (t.map f)).openSegment.map (Segment.inChars (t.map f)) =
      (ofTemplate policy t).openSegment.map fun g => (g.inChars t).map f := by
  have hfind := congrArg (List.find? fun g => !g.terminated) (segments_map hf policy t)
  rw [List.find?_map, List.find?_map] at hfind
  exact hfind

/-- Whether a template is refused depends on its marks only, and so does where the refusal points. -/
theorem exists_prepare_map_iff :
    (∃ s, prepare policy (t.map f) = .ok s) ↔ ∃ s, prepare policy t = .ok s := by
  have hopen := openSegment_map hf policy t
  have hnone : (ofTemplate policy (t.map f)).openSegment = none ↔
      (ofTemplate policy t).openSegment = none := by
    rw [← Option.map_eq_none_iff, hopen, Option.map_eq_none_iff]
  simp only [prepare_eq_ok_iff, exists_eq_left, hnone]

theorem segments_of_prepare_map {s s' : Statement} (hs : prepare policy t = .ok s)
    (hs' : prepare policy (t.map f) = .ok s') :
    s'.segments.map (Segment.inChars (t.map f)) = s.segments.map fun g => (g.inChars t).map f := by
  obtain rfl := eq_ofTemplate_of_prepare policy t hs
  obtain rfl := eq_ofTemplate_of_prepare policy (t.map f) hs'
  exact segments_map hf policy t

theorem refusal_map {e e' : OpenLiteral} (he : prepare policy t = .error e)
    (he' : prepare policy (t.map f) = .error e') :
    e'.content = e.content.map f ∧ e'.span.inChars (t.map f) = e.span.inChars t := by
  obtain ⟨-, g, hg, rfl⟩ := (prepare_eq_error_iff policy t e).mp he
  obtain ⟨-, g', hg', rfl⟩ := (prepare_eq_error_iff policy (t.map f) e').mp he'
  have hopen := openSegment_map hf policy t
  rw [hg, hg', Option.map_some, Option.map_some, Option.some.injEq] at hopen
  exact ⟨congrArg Segment.content hopen, congrArg Segment.span hopen⟩

end

variable {f : Char → Char} (policy : Policy) (t : Text)

/-- The marks of a template decide if it is refused and where its segments are, of which kinds. All
else in it comes out renamed where it is renamed. -/
theorem renaming_keeps_structure (hf : KeepsMarks f) :
    ((∃ s, prepare policy (t.map f) = .ok s) ↔ ∃ s, prepare policy t = .ok s) ∧
    (∀ s s', prepare policy t = .ok s → prepare policy (t.map f) = .ok s' →
      s'.sql = s.sql.map f ∧ s'.patterns = s.patterns.map (List.map f) ∧
      s'.segments.map (Segment.inChars (t.map f)) = s.segments.map fun g => (g.inChars t).map f) ∧
    (∀ e e', prepare policy t = .error e → prepare policy (t.map f) = .error e' →
      e'.content = e.content.map f ∧ e'.span.inChars (t.map f) = e.span.inChars t) ∧
    ∀ t' : Text, t'.map mask = t.map mask →
      ((∃ s', prepare policy t' = .ok s') ↔ ∃ s, prepare policy t = .ok s) ∧
      ∀ s s', prepare policy t = .ok s → prepare policy t' = .ok s' →
        s'.segments.map (fun g => (g.inChars t').map mask) =
          s.segments.map fun g => (g.inChars t).map mask := by
  refine ⟨exists_prepare_map_iff hf policy t, ?_, fun e e' => refusal_map hf policy t, ?_⟩
  · intro s s' hs hs'
    refine ⟨?_, ?_, segments_of_prepare_map hf policy t hs hs'⟩
    all_goals
      obtain rfl := eq_ofTemplate_of_prepare policy t hs
      obtain rfl := eq_ofTemplate_of_prepare policy (t.map f) hs'
    · exact sql_map hf policy t
    · exact patterns_map hf policy t
  · intro t' ht'
    have hmask := exists_prepare_map_iff keepsMarks_mask policy t
    have hmask' := exists_prepare_map_iff keepsMarks_mask policy t'
    rw [ht'] at hmask'
    refine ⟨hmask'.symm.trans hmask, fun s s' hs hs' => ?_⟩
    -- both templates have the structure of the masked one
    obtain ⟨u, hu⟩ := hmask.mpr ⟨s, hs⟩
    have hsegments := segments_of_prepare_map keepsMarks_mask policy t hs hu
    rw [← ht'] at hu
    have hsegments' := segments_of_prepare_map keepsMarks_mask policy t' hs' hu
    rw [← hsegments', ht', hsegments]

theorem renaming_keeps_structure_of_widened_characters :
    let f : Char → Char := fun c => if c = '\\' ∨ c = '\n' then '€' else if c = 'é' then '"' else c
    KeepsMarks f ∧ ∃ s, prepare .pattern "é\\'%\n''é','é%".toList = .ok s ∧
      ∃ s', prepare .pattern ("é\\'%\n''é','é%".toList.map f) = .ok s' ∧
        s'.sql = "\"€?,?".toList ∧ s'.patterns = ["%€'\"".toList, "\"%".toList] := by
  intro f
  have hf : KeepsMarks f := by
    refine ⟨rfl, rfl, rfl, fun c h => ?_, fun c h => ?_⟩
    all_goals
      simp only [f] at h
      split at h
      · exact absurd h (by decide)
      · split at h
        · exact absurd h (by decide)
        · exact h
  have hs : prepare .pattern "é\\'%\n''é','é%".toList = .ok ⟨"é\\?,?".toList,
      ["%\n'é".toList, "é%".toList], [⟨.pattern, ⟨3, 11⟩, "%\n'é".toList, true⟩,
        ⟨.pattern, ⟨12, 16⟩, "é%".toList, false⟩], some ⟨12, 16⟩⟩ := by
    decide +kernel
  obtain ⟨hiff, hparts, -⟩ := renaming_keeps_structure .pattern "é\\'%\n''é','é%".toList hf
  obtain ⟨s', hs'⟩ := hiff.mpr ⟨_, hs⟩
  obtain ⟨hsql, hpatterns, -⟩ := hparts _ s' hs hs'
  exact ⟨hf, _, hs, s', hs', hsql.trans (by decide +kernel), hpatterns.trans (by decide +kernel)⟩

end Statement
end SqlTemplate
