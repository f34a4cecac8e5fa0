import SqlTemplate.Proofs.StatementConsistency

/-! # Tokens whose texts are cut finer than scanning cuts them

The text between two literals may come in pieces, as it does where a placeholder has taken the place
of a pattern. Scanning joins the pieces and finds the same literals, so that a statement can be read
off the pieces themselves.
-/
namespace SqlTemplate

namespace Token

theorem apart_scan (t : Text) : Apart (scan t) := (wellFormed_scan t).apart

/-- Adjacent texts become one. -/
def joined : List Token → List Token
  | [] => []
  | .text w :: ts => w.foldr consText (joined ts)
  | t :: ts => t :: joined ts

theorem Apart.scan_render {ts : List Token} (h : Apart ts) : scan (render ts) = joined ts := by
  induction h with
  | nil => rfl
  | text _ hq _ ih => rw [render_cons, source, scan_append_of_quoteFree hq, ih, joined]
  | literal hu rest ih =>
    rw [render_cons, scan_literal_append _ (rest.head_ne_quote hu), ih]
    rfl
  | unterminated =>
    rw [render_cons, render_nil, List.append_nil, scan_unterminated]
    rfl

/-- What is collected from a text is collected from its characters one by one. -/
structure Cuttable {β : Type} (f : Token × Span → List β) : Prop where
  nil : ∀ s, f (.text [], s) = []
  cons : ∀ x w i k, f (.text (x :: w), ⟨i, k⟩) =
    f (.text [x], ⟨i, i + x.utf8Size⟩) ++ f (.text w, ⟨i + x.utf8Size, k⟩)

section
variable {β : Type} {f : Token × Span → List β}

theorem Cuttable.flatMap_consText (hf : Cuttable f) (i : Nat) (x : Char) (ts : List Token) :
    (place i (consText x ts)).flatMap f =
      f (.text [x], ⟨i, i + x.utf8Size⟩) ++ (place (i + x.utf8Size) ts).flatMap f := by
  cases ts with
  | nil => rfl
  | cons u us => cases u with
    | literal c | unterminated c => rfl
    | text w =>
      simp only [consText, place, source, List.flatMap_cons, Text.byteSize_cons]
      rw [hf.cons, Nat.add_assoc, List.append_assoc]

theorem Cuttable.flatMap_foldr_consText (hf : Cuttable f) (i : Nat) (w : Text)
    (ts : List Token) :
    (place i (w.foldr consText ts)).flatMap f = (place i (.text w :: ts)).flatMap f := by
  induction w generalizing i with
  | nil => simp [place, source, hf.nil]
  | cons x w ih =>
    rw [List.foldr_cons, hf.flatMap_consText, ih]
    simp only [place, source, List.flatMap_cons, Text.byteSize_cons]
    rw [hf.cons x w, Nat.add_assoc, List.append_assoc]

/-- Joining texts changes nothing that is collected from the tokens. -/
theorem Cuttable.flatMap_joined (hf : Cuttable f) (i : Nat) (ts : List Token) :
    (place i (joined ts)).flatMap f = (place i ts).flatMap f := by
  induction ts generalizing i with
  | nil => rfl
  | cons t ts ih => cases t with
    | text w =>
      rw [joined, hf.flatMap_foldr_consText]
      simp only [place, List.flatMap_cons, ih]
    | literal c | unterminated c => simp only [joined, place, List.flatMap_cons, ih]

end

variable {policy : Policy}

theorem flatMap_fst_place {β : Type} (f : Token → List β) (i : Nat) (ts : List Token) :
    (place i ts).flatMap (fun p => f p.1) = ts.flatMap f := by
  rw [← List.flatMap_map, map_fst_place]

theorem segmentsFrom_eq_flatMap (i : Nat) (ts : List Token) :
    segmentsFrom policy i ts = (place i ts).flatMap fun p => (segment? policy p).toList :=
  List.filterMap_eq_flatMap_toList _ _

theorem flatMap_emitted_joined (ts : List Token) :
    (joined ts).flatMap (emitted policy) = ts.flatMap (emitted policy) := by
  have hf : Cuttable fun p : Token × Span => p.1.emitted policy :=
    ⟨fun _ => by simp [emitted, kind?, source], fun _ _ _ _ => by simp [emitted, kind?, source]⟩
  have h := hf.flatMap_joined 0 ts
  rwa [flatMap_fst_place, flatMap_fst_place] at h

theorem segmentsFrom_joined (i : Nat) (ts : List Token) :
    segmentsFrom policy i (joined ts) = segmentsFrom policy i ts := by
  have hf : Cuttable fun p => (segment? policy p).toList := ⟨fun _ => rfl, fun _ _ _ _ => rfl⟩
  rw [segmentsFrom_eq_flatMap, segmentsFrom_eq_flatMap]
  exact hf.flatMap_joined i ts

end Token

namespace Statement
open Token

variable {policy : Policy}

/-- The statement of the template that the tokens render. -/
def ofTokens (policy : Policy) (ts : List Token) : Statement :=
  let segments := segmentsFrom policy 0 ts
  { sql := ts.flatMap (emitted policy)
    patterns := (segments.filter fun g => g.kind = .pattern).map Segment.content
    segments := segments
    openSpan := (segments.find? fun g => !g.terminated).map Segment.span }

theorem ofTokens_scan (policy : Policy) (t : Text) : ofTokens policy (scan t) = ofTemplate policy t :=
  rfl

/-- It does not matter whether the tokens are the ones that scanning finds. -/
theorem ofTemplate_render {ts : List Token} (h : Apart ts) (policy : Policy) :
    ofTemplate policy (render ts) = ofTokens policy ts := by
  rw [← ofTokens_scan, h.scan_render]
  simp only [ofTokens, segmentsFrom_joined, flatMap_emitted_joined]

end Statement

namespace Token

variable {policy : Policy}

/-- The token that is left in the SQL. -/
def parameterize (policy : Policy) (t : Token) : Token :=
  if t.kind? policy = some .pattern then .text [placeholder] else t

theorem source_parameterize (t : Token) : (t.parameterize policy).source = t.emitted policy := by
  by_cases h : t.kind? policy = some .pattern <;> simp [parameterize, emitted, h, source]

theorem render_map_parameterize (ts : List Token) :
    render (ts.map (parameterize policy)) = ts.flatMap (emitted policy) := by
  simp only [render, List.flatMap_map, source_parameterize]

@[simp] theorem parameterize_text (w : Text) : (text w).parameterize policy = .text w := by
  simp [parameterize, kind?]

theorem parameterize_of_pattern?_eq_some {t : Token} {c : Text}
    (h : t.pattern? policy = some c) : t.parameterize policy = .text [placeholder] := by
  rw [pattern?] at h
  split at h
  · next hk => rw [parameterize, if_pos hk]
  · cases h

theorem parameterize_of_pattern?_eq_none {t : Token} (h : t.pattern? policy = none) :
    t.parameterize policy = t := by
  rw [pattern?] at h
  split at h
  · next hk => cases t <;> simp [content?, kind?] at h hk
  · next hk => rw [parameterize, if_neg hk]

theorem unterminated_mem_map_parameterize_iff (c : Text) (ts : List Token) :
    .unterminated c ∈ ts.map (parameterize policy) ↔
      .unterminated c ∈ ts ∧ (unterminated c).kind? policy ≠ some .pattern := by
  rw [List.mem_map]
  constructor
  · rintro ⟨t, ht, htc⟩
    rw [parameterize] at htc
    split at htc
    · cases htc
    · next hk =>
      subst htc
      exact ⟨ht, hk⟩
  · rintro ⟨hc, hk⟩
    exact ⟨_, hc, by rw [parameterize, if_neg hk]⟩

/-- A placeholder is text, so no two literals come to touch. -/
theorem Apart.map_parameterize {ts : List Token} (h : Apart ts) (policy : Policy) :
    Apart (ts.map (parameterize policy)) := by
  have hmark : [placeholder] ≠ [] ∧ quote ∉ [placeholder] := by decide
  induction h with
  | nil => exact .nil
  | text hne hq _ ih => simpa using Apart.text hne hq ih
  | @literal c ts hu _ ih =>
    rw [List.map_cons, parameterize]
    split
    · exact .text hmark.1 hmark.2 ih
    · refine .literal ?_ ih
      intro u hmem
      rw [List.head?_map, Option.mem_def, Option.map_eq_some_iff] at hmem
      obtain ⟨v, hv, rfl⟩ := hmem
      rcases isText_cases v with ⟨w, rfl⟩ | hv'
      · simp [isText]
      · simp [hu v hv] at hv'
  | unterminated =>
    rw [List.map_singleton, parameterize]
    split
    · exact .text hmark.1 hmark.2 .nil
    · exact .unterminated

theorem apart_parameterized (policy : Policy) (t : Text) :
    Apart ((scan t).map (parameterize policy)) := (apart_scan t).map_parameterize policy

end Token

/-- The SQL has the tokens of the template, with a text in place of each pattern. -/
theorem Statement.ofTemplate_sql (policy policy' : Policy) (t : Text) :
    ofTemplate policy' (ofTemplate policy t).sql =
      ofTokens policy' ((Token.scan t).map (Token.parameterize policy)) := by
  rw [← ofTemplate_render (Token.apart_parameterized policy t), Token.render_map_parameterize,
    sql_ofTemplate]

end SqlTemplate
