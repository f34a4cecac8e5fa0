import SqlTemplate.Binding
import SqlTemplate.Proofs.TokenJoining

/-! # The parameters of a statement and its patterns

A prepared-statement interface numbers the placeholder characters that it finds in the SQL outside
literals. The ones emitted for patterns are always among them and in order. They are all of them
exactly when the template has no such character of its own outside literals.
-/
namespace SqlTemplate

namespace Text

/-- The offsets of a character in a text that begins at the offset `i`. -/
def offsetsOf (x : Char) : Nat → Text → List Nat
  | _, [] => []
  | i, c :: r =>
    if c = x then i :: offsetsOf x (i + c.utf8Size) r else offsetsOf x (i + c.utf8Size) r

theorem length_offsetsOf (x : Char) (i : Nat) (t : Text) :
    (offsetsOf x i t).length = t.count x := by
  induction t generalizing i with
  | nil => rfl
  | cons c r ih =>
    by_cases h : c = x
    · subst h
      simp [offsetsOf, ih]
    · simp [offsetsOf, h, ih]

theorem mem_offsetsOf_bounds {x : Char} {i n : Nat} {t : Text} (h : n ∈ offsetsOf x i t) :
    i ≤ n ∧ n < i + t.byteSize := by
  induction t generalizing i with
  | nil => simp [offsetsOf] at h
  | cons c r ih =>
    have hc := c.utf8Size_pos
    have hrest (h : n ∈ offsetsOf x (i + c.utf8Size) r) : i ≤ n ∧ n < i + byteSize (c :: r) := by
      have hr := ih h
      rw [byteSize_cons]
      omega
    rw [offsetsOf] at h
    split at h
    · rcases List.mem_cons.mp h with rfl | h
      · rw [byteSize_cons]
        omega
      · exact hrest h
    · exact hrest h

theorem offsetsOf_increasing (x : Char) (i : Nat) (t : Text) :
    (offsetsOf x i t).Pairwise (· < ·) := by
  induction t generalizing i with
  | nil => exact .nil
  | cons c r ih =>
    have hc := c.utf8Size_pos
    rw [offsetsOf]
    split
    · refine List.pairwise_cons.mpr ⟨fun n hn => ?_, ih _⟩
      have hbounds := mem_offsetsOf_bounds hn
      omega
    · exact ih _

end Text

namespace Token

variable {policy : Policy}

/-- The offsets of the placeholder characters that a token has outside literals. -/
def marks : Token × Span → List Nat
  | (.text w, s) => Text.offsetsOf placeholder s.start w
  | (.literal _, _) | (.unterminated _, _) => []

def marksFrom (i : Nat) (ts : List Token) : List Nat := (place i ts).flatMap marks

theorem marksFrom_cons (i : Nat) (t : Token) (ts : List Token) :
    marksFrom i (t :: ts) =
      marks (t, ⟨i, i + t.source.byteSize⟩) ++ marksFrom (i + t.source.byteSize) ts := rfl

theorem marksFrom_joined (i : Nat) (ts : List Token) :
    marksFrom i (joined ts) = marksFrom i ts := by
  have hf : Cuttable marks := by
    refine ⟨fun _ => rfl, fun x w i k => ?_⟩
    by_cases hx : x = placeholder <;> simp [marks, Text.offsetsOf, hx]
  exact hf.flatMap_joined i ts

theorem mem_marks_bounds {i n : Nat} {t : Token}
    (h : n ∈ marks (t, ⟨i, i + t.source.byteSize⟩)) : i ≤ n ∧ n < i + t.source.byteSize := by
  cases t with
  | text w => exact Text.mem_offsetsOf_bounds h
  | literal c | unterminated c => simp [marks] at h

theorem le_of_mem_marksFrom {i n : Nat} {ts : List Token} (h : n ∈ marksFrom i ts) : i ≤ n := by
  induction ts generalizing i with
  | nil => simp [marksFrom, place] at h
  | cons t ts ih =>
    rw [marksFrom_cons, List.mem_append] at h
    rcases h with h | h
    · exact (mem_marks_bounds h).1
    · exact (Nat.le_add_right _ _).trans (ih h)

theorem marksFrom_increasing (i : Nat) (ts : List Token) : (marksFrom i ts).Pairwise (· < ·) := by
  induction ts generalizing i with
  | nil => exact .nil
  | cons t ts ih =>
    rw [marksFrom_cons, List.pairwise_append]
    refine ⟨?_, ih _, ?_⟩
    · cases t with
      | text w => exact Text.offsetsOf_increasing placeholder i w
      | literal c | unterminated c => exact .nil
    · intro m hm n hn
      exact (mem_marks_bounds hm).2.trans_le (le_of_mem_marksFrom hn)

theorem marksFrom_eq_nil_iff (i : Nat) (ts : List Token) :
    marksFrom i ts = [] ↔ ∀ w, .text w ∈ ts → placeholder ∉ w := by
  induction ts generalizing i with
  | nil => simp [marksFrom, place]
  | cons t ts ih =>
    rw [marksFrom_cons, List.append_eq_nil_iff, ih]
    cases t with
    | text w => simp [marks, ← List.length_eq_zero_iff, Text.length_offsetsOf, List.count_eq_zero]
    | literal c | unterminated c => simp [marks]

/-- The placeholders that tokens emit into the SQL from the offset `i` on: the offset of each one
and the pattern that it stands for. -/
def placeholdersFrom (policy : Policy) : Nat → List Token → List (Nat × Text)
  | _, [] => []
  | i, t :: ts =>
    (t.pattern? policy).toList.map (fun pattern => (i, pattern)) ++
      placeholdersFrom policy (i + (t.emitted policy).byteSize) ts

theorem map_snd_placeholdersFrom (i : Nat) (ts : List Token) :
    (placeholdersFrom policy i ts).map Prod.snd = ts.filterMap (pattern? policy) := by
  induction ts generalizing i with
  | nil => rfl
  | cons t ts ih =>
    rw [placeholdersFrom, List.map_append, ih, List.filterMap_cons]
    cases t.pattern? policy <;> simp

theorem sublist_marksFrom (policy : Policy) (i : Nat) (ts : List Token) :
    ((placeholdersFrom policy i ts).map Prod.fst).Sublist
      (marksFrom i (ts.map (parameterize policy))) := by
  induction ts generalizing i with
  | nil => exact List.Sublist.refl _
  | cons t ts ih =>
    rw [List.map_cons, marksFrom_cons, placeholdersFrom, List.map_append, source_parameterize]
    refine List.Sublist.append ?_ (ih _)
    cases h : t.pattern? policy with
    | none => simp
    | some c =>
      rw [parameterize_of_pattern?_eq_some h]
      exact List.Sublist.refl _

theorem length_marks_parameterize (policy : Policy) (t : Token) (s s' : Span) :
    (marks (t.parameterize policy, s)).length =
      (t.pattern? policy).toList.length + (marks (t, s')).length := by
  cases h : t.pattern? policy with
  | none =>
    rw [parameterize_of_pattern?_eq_none h]
    cases t <;> simp [marks, Text.length_offsetsOf]
  | some c =>
    rw [parameterize_of_pattern?_eq_some h]
    cases t with
    | text w => simp [pattern?, kind?] at h
    | literal d | unterminated d => rfl

/-- The placeholder characters of the SQL are those emitted and those copied. -/
theorem length_marksFrom_parameterize (policy : Policy) (i j : Nat) (ts : List Token) :
    (marksFrom i (ts.map (parameterize policy))).length =
      (placeholdersFrom policy i ts).length + (marksFrom j ts).length := by
  induction ts generalizing i j with
  | nil => rfl
  | cons t ts ih =>
    have ht := length_marks_parameterize policy t ⟨i, i + (t.emitted policy).byteSize⟩
      ⟨j, j + t.source.byteSize⟩
    have hrest := ih (i + (t.emitted policy).byteSize) (j + t.source.byteSize)
    simp only [List.map_cons, marksFrom_cons, placeholdersFrom, List.length_append,
      List.length_map, source_parameterize]
    omega

end Token

/-- The offsets that an interface takes for parameters: those of the placeholder characters that
stand outside literals when the SQL is scanned. -/
def parameterOffsets (sql : Text) : List Nat := (Token.placed sql).flatMap Token.marks

/-- The offsets of the parameters in the SQL, each with the value that is bound to its number. -/
def Bound.filled (b : Bound) : List (Nat × Option Text) :=
  (parameterOffsets b.sql).zipIdx.map fun (offset, k) => (offset, b.params.lookup (k + 1))

theorem Bound.lookup_params (b : Bound) (k : Nat) : b.params.lookup (k + 1) = b.values[k]? := by
  have hfrom (values : List Text) (n k : Nat) :
      ((values.zipIdx n).map fun p => (p.2 + 1, p.1)).lookup (n + k + 1) = values[k]? := by
    induction values generalizing n k with
    | nil => rfl
    | cons v values ih =>
      rw [List.zipIdx_cons, List.map_cons]
      cases k with
      | zero => simp
      | succ k =>
        have hne : (n + (k + 1) + 1 == n + 1) = false := by simp
        have hrest := ih (n + 1) k
        rw [Nat.add_right_comm n 1 k] at hrest
        rw [List.lookup_cons, hne]
        exact hrest
  have h := hfrom b.values 0 k
  rwa [Nat.zero_add] at h

namespace Statement

variable (policy : Policy) (t : Text)

/-- The offsets of the placeholders that a template emits into its SQL, with their patterns. -/
def placeholders : List (Nat × Text) := Token.placeholdersFrom policy 0 (Token.scan t)

theorem map_snd_placeholders :
    (placeholders policy t).map Prod.snd = (ofTemplate policy t).patterns := by
  rw [placeholders, Token.map_snd_placeholdersFrom]
  exact (Token.patterns_segmentsFrom policy 0 (Token.scan t)).symm

theorem parameterOffsets_sql : parameterOffsets (ofTemplate policy t).sql =
    Token.marksFrom 0 ((Token.scan t).map (Token.parameterize policy)) := by
  rw [sql_ofTemplate, ← Token.render_map_parameterize, parameterOffsets, Token.placed,
    (Token.apart_parameterized policy t).scan_render]
  exact Token.marksFrom_joined 0 _

theorem parameterOffsets_eq_iff :
    parameterOffsets (ofTemplate policy t).sql = (placeholders policy t).map Prod.fst ↔
      ∀ w, .text w ∈ Token.scan t → placeholder ∉ w := by
  have hsub := Token.sublist_marksFrom policy 0 (Token.scan t)
  have hlength := Token.length_marksFrom_parameterize policy 0 0 (Token.scan t)
  rw [parameterOffsets_sql, ← Token.marksFrom_eq_nil_iff 0, ← List.length_eq_zero_iff]
  constructor
  · intro h
    rw [h, List.length_map] at hlength
    exact Nat.left_eq_add.mp hlength
  · intro h
    refine (hsub.eq_of_length ?_).symm
    rw [hlength, h, List.length_map]
    rfl

/-- Each parameter carries the value of its own pattern if the interface counts just the
placeholders of the patterns. -/
theorem filled_bind_eq_iff {Event : Type} (layout : Layout Event) (event : Event) :
    ((ofTemplate policy t).bind layout event).filled =
        (placeholders policy t).map (fun p => (p.1, some (layout p.2 event))) ↔
      parameterOffsets (ofTemplate policy t).sql = (placeholders policy t).map Prod.fst := by
  have hvalues : ((ofTemplate policy t).bind layout event).values =
      (placeholders policy t).map fun p => layout p.2 event := by
    rw [bind, ← map_snd_placeholders, List.map_map]
    rfl
  have hfilled : ((ofTemplate policy t).bind layout event).filled =
      (parameterOffsets (ofTemplate policy t).sql).zipIdx.map fun p =>
        (p.1, ((placeholders policy t).map fun p => layout p.2 event)[p.2]?) := by
    rw [Bound.filled]
    simp only [Bound.lookup_params, hvalues]
    rfl
  rw [hfilled]
  constructor
  · intro h
    have hfst := congrArg (List.map Prod.fst) h
    simpa [Function.comp_def] using hfst
  · intro h
    rw [h]
    refine List.ext_getElem? fun k => ?_
    cases hk : (placeholders policy t)[k]? <;> simp [hk]

/-- The placeholders emitted for the patterns are parameters of the SQL and in the order of the
patterns. Beside them the SQL has the parameters of the template, so that every parameter carries
the value of its pattern exactly when no text of the template holds a placeholder character. -/
theorem parameters_meet_patterns {t : Text} {s : Statement} (h : prepare policy t = .ok s) :
    (placeholders policy t).map Prod.snd = s.patterns ∧
    ((placeholders policy t).map Prod.fst).Sublist (parameterOffsets s.sql) ∧
    (parameterOffsets s.sql).Pairwise (· < ·) ∧
    (parameterOffsets s.sql).length = s.patterns.length + (parameterOffsets t).length ∧
    (parameterOffsets s.sql = (placeholders policy t).map Prod.fst ↔
      ∀ w, .text w ∈ Token.scan t → placeholder ∉ w) ∧
    ∀ {Event : Type} (layout : Layout Event) (event : Event),
      (s.bind layout event).filled =
          (placeholders policy t).map (fun p => (p.1, some (layout p.2 event))) ↔
        ∀ w, .text w ∈ Token.scan t → placeholder ∉ w := by
  obtain rfl := eq_ofTemplate_of_prepare policy t h
  have hoffsets := parameterOffsets_sql policy t
  refine ⟨map_snd_placeholders policy t, ?_, ?_, ?_, parameterOffsets_eq_iff policy t, ?_⟩
  · rw [hoffsets]
    exact Token.sublist_marksFrom policy 0 (Token.scan t)
  · rw [hoffsets]
    exact Token.marksFrom_increasing 0 _
  · have hlength := Token.length_marksFrom_parameterize policy 0 0 (Token.scan t)
    rw [hoffsets, hlength, ← map_snd_placeholders, List.length_map]
    rfl
  · intro Event layout event
    exact (filled_bind_eq_iff policy t layout event).trans (parameterOffsets_eq_iff policy t)

theorem parameters_meet_patterns_behind_stray_mark :
    ∃ s, prepare .pattern "é?,'?''%','?'".toList = .ok s ∧ (parameterOffsets s.sql).length = 2 ∧
      (s.bind Layout.paired "x".toList).filled ≠ [(4, some "?'%=x".toList)] := by
  have hs : prepare .pattern "é?,'?''%','?'".toList = .ok ⟨"é?,?,'?'".toList, ["?'%".toList],
      [⟨.pattern, ⟨4, 10⟩, "?'%".toList, true⟩, ⟨.plain, ⟨11, 14⟩, "?".toList, true⟩],
      none⟩ := by decide +kernel
  obtain ⟨-, -, -, hlength, -, hfilled⟩ := parameters_meet_patterns .pattern hs
  refine ⟨_, hs, hlength.trans (by decide +kernel), fun h => ?_⟩
  have hstray : .text "é?,".toList ∈ Token.scan "é?,'?''%','?'".toList := by decide +kernel
  have hown : (placeholders .pattern "é?,'?''%','?'".toList).map
      (fun p => (p.1, some (Layout.paired p.2 "x".toList))) = [(4, some "?'%=x".toList)] := by
    decide +kernel
  rw [← hown] at h
  exact (hfilled Layout.paired "x".toList).mp h _ hstray (by decide)

end Statement

end SqlTemplate
