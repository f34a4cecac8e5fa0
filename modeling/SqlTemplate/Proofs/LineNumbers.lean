import Mathlib.Data.List.Basic
import SqlTemplate.Excerpt.Mark

/-! # The line and the column of a position, read off the text

A position lies on the line with as many line ends in front of it, at its distance from the last of
them. The lines of a source are looked up by their offsets; what is found there is this line and
this column.
-/
namespace SqlTemplate.Excerpt

namespace Line

/-- A line ends with the character number `i`: a line break that is no carriage return with a line
feed behind it. -/
def endsAt (t : Text) (i : Nat) : Bool :=
  t[i]?.any isBreak && !(t[i]? == some '\r' && t[i + 1]? == some '\n')

/-- The characters in front of a position with which lines end, by number. -/
def endsBefore (t : Text) (i : Nat) : List Nat := (List.range i).filter (endsAt t)

/-- The number of the line on which a position lies. -/
def lineAt (t : Text) (i : Nat) : Nat := (endsBefore t i).length

/-- The distance of a position from the start of its line. -/
def columnAt (t : Text) (i : Nat) : Nat := i - ((endsBefore t i).getLast?.map (· + 1)).getD 0

theorem isBreak_iff_of_ascii {c : Char} (h : c.toNat < 128) :
    isBreak c = true ↔ c ∈ ['\n', '\r', '\x0b', '\x0c'] := by
  have hval (d : Char) : c = d ↔ c.toNat = d.toNat := by
    rw [← Char.toNat_inj]
  simp [isBreak, hval]
  omega

theorem endsAt_cons_zero (c : Char) (r : Text) :
    endsAt (c :: r) 0 = (isBreak c && !(c == '\r' && r.head? == some '\n')) := by
  simp [endsAt, List.head?_eq_getElem?]

theorem endsBefore_cons (c : Char) (r : Text) (i : Nat) : endsBefore (c :: r) (i + 1) =
    (if endsAt (c :: r) 0 then [0] else []) ++ (endsBefore r i).map (· + 1) := by
  have htail : endsAt (c :: r) ∘ Nat.succ = endsAt r := rfl
  rw [endsBefore, List.range_succ_eq_map, List.filter_cons, List.filter_map, htail]
  split <;> rfl

theorem lineAt_cons (c : Char) (r : Text) (i : Nat) :
    lineAt (c :: r) (i + 1) = (if endsAt (c :: r) 0 then 1 else 0) + lineAt r i := by
  rw [lineAt, endsBefore_cons, List.length_append, List.length_map, lineAt]
  split <;> rfl

theorem columnAt_cons (c : Char) (r : Text) (i : Nat) : columnAt (c :: r) (i + 1) =
    if endsAt (c :: r) 0 = false ∧ endsBefore r i = [] then i + 1 else columnAt r i := by
  rw [columnAt, endsBefore_cons, columnAt]
  rcases List.eq_nil_or_concat' (endsBefore r i) with hnil | ⟨front, n, hfront⟩
  · rw [hnil]
    cases endsAt (c :: r) 0 <;> simp
  · rw [hfront, List.map_append, ← List.append_assoc]
    simp

theorem texts_cons (c : Char) (r : Text) : texts (c :: r) =
    if endsAt (c :: r) 0 then [c] :: texts r else consText c (texts r) := by
  rw [texts, endsAt_cons_zero]

theorem placeFrom_eq_nil_iff (offset : Nat) (ts : List Text) :
    placeFrom offset ts = [] ↔ ts = [] := by
  cases ts <;> simp [placeFrom]

theorem texts_eq_nil_iff (t : Text) : texts t = [] ↔ t = [] := by
  cases t with
  | nil => simp [texts]
  | cons c r =>
    rw [texts_cons]
    split
    · simp
    · cases texts r <;> simp [consText]

end Line

theorem le_of_locateFrom {lines : List Line} {number position line column : Nat}
    (h : locateFrom number position lines = some (line, column)) : number ≤ line := by
  induction lines generalizing number with
  | nil => cases h
  | cons l ls ih =>
    rw [locateFrom] at h
    split at h
    · cases h
      exact Nat.le_refl _
    · exact Nat.le_of_succ_le (ih h)

/-- With one character more in front of it, the first line reaches as far as before. -/
theorem locateFrom_cons_line (number offset i : Nat) (c : Char) (w : Text) (ws : List Text) :
    locateFrom number (offset + (i + 1)) (Line.placeFrom offset ((c :: w) :: ws)) =
      (locateFrom number (offset + 1 + i) (Line.placeFrom (offset + 1) (w :: ws))).map
        fun p => (p.1, if p.1 = number then i + 1 else p.2) := by
  have hoffset : offset + (c :: w).length = offset + 1 + w.length := by
    rw [List.length_cons]
    omega
  have hposition : offset + (i + 1) = offset + 1 + i := by omega
  rw [Line.placeFrom, Line.placeFrom, locateFrom, locateFrom, Line.span, Line.span, hoffset,
    hposition]
  split
  · simp
    omega
  · cases h : locateFrom (number + 1) (offset + 1 + i)
        (Line.placeFrom (offset + 1 + w.length) ws) with
    | none => rfl
    | some p =>
      have hp : p.1 ≠ number := Nat.ne_of_gt (le_of_locateFrom h)
      simp [hp]

theorem locateFrom_start (number offset : Nat) {w : Text} (hw : w ≠ []) (ws : List Text) :
    locateFrom number offset (Line.placeFrom offset (w :: ws)) = some (number, 0) := by
  have hlength := List.length_pos_iff.mpr hw
  rw [Line.placeFrom, locateFrom, Line.span, Nat.sub_self, if_pos]
  simp [hlength]

theorem locateFrom_texts (number offset : Nat) {t : Text} {i : Nat} (h : i < t.length) :
    locateFrom number (offset + i) (Line.placeFrom offset (Line.texts t)) =
      some (number + Line.lineAt t i, Line.columnAt t i) := by
  induction t generalizing number offset i with
  | nil => cases h
  | cons c r ih =>
    rw [Line.texts_cons]
    cases i with
    | zero =>
      have hfirst := locateFrom_start number offset (w := [c]) (List.cons_ne_nil c [])
      rw [Nat.add_zero]
      split
      · exact hfirst _
      · cases Line.texts r with
        | nil => exact hfirst []
        | cons w ws => exact locateFrom_start number offset (List.cons_ne_nil c w) ws
    | succ i =>
      have hi : i < r.length := Nat.lt_of_succ_lt_succ h
      have hmore : Line.texts r ≠ [] := by
        rw [Ne, Line.texts_eq_nil_iff]
        exact List.ne_nil_of_length_pos (Nat.zero_lt_of_lt hi)
      rw [Line.lineAt_cons, Line.columnAt_cons]
      split
      · next hend =>
        have hposition : offset + (i + 1) = offset + 1 + i := by omega
        have hbelow : (Line.placeFrom (offset + 1) (Line.texts r)).isEmpty = false := by
          rwa [List.isEmpty_eq_false_iff, Ne, Line.placeFrom_eq_nil_iff]
        rw [Line.placeFrom, locateFrom, Line.span, List.length_singleton, hbelow, if_neg]
        · rw [hposition, ih _ _ hi]
          simp [hend, Nat.add_assoc]
        · simp
      · next hend =>
        obtain ⟨w, ws, htexts⟩ := List.exists_cons_of_ne_nil hmore
        rw [htexts, Line.consText, locateFrom_cons_line, ← htexts, ih _ _ hi]
        simp [hend, Line.lineAt]

theorem locateFrom_eq_none {lines : List Line} {number position : Nat}
    (h : ∀ l ∈ lines, l.span.stop < position) : locateFrom number position lines = none := by
  induction lines generalizing number with
  | nil => rfl
  | cons l ls ih =>
    obtain ⟨hl, hls⟩ := List.forall_mem_cons.mp h
    rw [locateFrom, if_neg, ih hls]
    simp [Nat.le_of_lt hl, Nat.ne_of_gt hl]

theorem locate?_split {t : Text} {i : Nat} (h : i < t.length) :
    locate? (Line.split t) i = some (Line.lineAt t i, Line.columnAt t i) := by
  have hfound := locateFrom_texts 0 0 h
  rwa [Nat.zero_add, Nat.zero_add] at hfound

/-- The position lies on the line `l`, behind the lines above it and in front of those below. The
end of the source lies on the last line. -/
structure LiesOn (lines : List Line) (position : Nat) (above : List Line) (l : Line)
    (below : List Line) : Prop where
  lines_eq : lines = above ++ l :: below
  behind : ∀ k ∈ above, k.span.stop ≤ position
  start_le : l.offset ≤ position
  within : position < l.span.stop ∨ below = [] ∧ position = l.span.stop
  before : ∀ k ∈ below, position < k.offset

namespace Line

theorem contains_span_iff (l : Line) (i : Nat) :
    l.span.contains i = true ↔ l.offset ≤ i ∧ i < l.span.stop := by
  rw [Span.contains, Bool.and_eq_true, decide_eq_true_eq, decide_eq_true_eq]
  rfl

theorem stop_span (l : Line) : l.span.stop = l.offset + l.text.length := rfl

theorem flatten_texts (t : Text) : (texts t).flatten = t := by
  induction t with
  | nil => rfl
  | cons c r ih =>
    rw [texts_cons]
    split
    · rw [List.flatten_cons, ih, List.singleton_append]
    · cases htexts : texts r <;> rw [htexts] at ih <;> simp [consText, ← ih]

theorem bounds_of_mem_placeFrom {offset : Nat} {ts : List Text} {l : Line}
    (h : l ∈ placeFrom offset ts) :
    offset ≤ l.offset ∧ l.span.stop ≤ offset + ts.flatten.length := by
  induction ts generalizing offset with
  | nil => cases h
  | cons t ts ih =>
    rw [List.flatten_cons, List.length_append]
    rcases List.mem_cons.mp h with rfl | hmem
    · exact ⟨Nat.le_refl _, Nat.add_le_add_left (Nat.le_add_right _ _) _⟩
    · have hbounds := ih hmem
      omega

theorem bounds_of_mem_split {t : Text} {l : Line} (h : l ∈ split t) :
    l.offset ≤ l.span.stop ∧ l.span.stop ≤ t.length := by
  have hbounds := bounds_of_mem_placeFrom h
  rw [flatten_texts, Nat.zero_add] at hbounds
  exact ⟨Nat.le_add_right _ _, hbounds.2⟩

theorem exists_liesOn (offset : Nat) (ts : List Text) (hts : ts ≠ []) {i : Nat}
    (hstart : offset ≤ i) (hstop : i ≤ offset + ts.flatten.length) : ∃ above l below,
      LiesOn (placeFrom offset ts) i above l below ∧
      (i < offset + ts.flatten.length → i < l.span.stop) := by
  induction ts generalizing offset with
  | nil => exact absurd rfl hts
  | cons t ts ih =>
    rw [List.flatten_cons, List.length_append] at hstop ⊢
    by_cases hi : i < offset + t.length
    · refine ⟨[], ⟨offset, t⟩, placeFrom (offset + t.length) ts,
        ⟨rfl, by simp, hstart, .inl hi, fun k hk => ?_⟩, fun _ => hi⟩
      exact Nat.lt_of_lt_of_le hi (bounds_of_mem_placeFrom hk).1
    · by_cases hlast : ts = []
      · subst hlast
        have hend : i = offset + t.length := by simp at hstop; omega
        exact ⟨[], ⟨offset, t⟩, [], ⟨rfl, by simp, hstart, .inr ⟨rfl, hend⟩, by simp⟩,
          fun hi' => absurd (by simpa using hi') hi⟩
      · obtain ⟨above, l, below, h, hlt⟩ := ih (offset + t.length) hlast (by omega) (by omega)
        refine ⟨⟨offset, t⟩ :: above, l, below,
          ⟨by rw [placeFrom, h.lines_eq]; rfl, ?_, h.start_le, h.within, h.before⟩,
          fun hi => hlt (by omega)⟩
        rw [List.forall_mem_cons]
        exact ⟨Nat.le_of_not_lt hi, h.behind⟩

end Line

namespace LiesOn

variable {lines above below : List Line} {position : Nat} {l : Line}
  (h : LiesOn lines position above l below)
include h

theorem locateFrom_eq (number : Nat) :
    locateFrom number position lines = some (number + above.length, position - l.offset) := by
  obtain ⟨rfl, hbehind, -, hwithin, -⟩ := h
  induction above generalizing number with
  | nil =>
    rw [List.nil_append, locateFrom, if_pos, List.length_nil, Nat.add_zero]
    rcases hwithin with hlt | ⟨rfl, heq⟩
    · simp [hlt]
    · simp [heq]
  | cons k above ih =>
    rw [List.forall_mem_cons] at hbehind
    have hpast : ¬ position < k.span.stop := Nat.not_lt.mpr hbehind.1
    have hmore : (above ++ l :: below).isEmpty = false := by simp
    rw [List.cons_append, locateFrom, hmore, if_neg (by simp [hpast]), ih _ hbehind.2,
      List.length_cons, Nat.add_right_comm, Nat.add_assoc]

theorem contains_iff (hstop : position < l.span.stop) {n : Nat} {k : Line}
    (hk : lines[n]? = some k) : k.span.contains position = true ↔ n = above.length := by
  rw [Line.contains_span_iff]
  rw [h.lines_eq] at hk
  rcases Nat.lt_trichotomy n above.length with hn | rfl | hn
  · rw [List.getElem?_append_left hn] at hk
    have hbehind := h.behind k (List.mem_of_getElem? hk)
    omega
  · rw [List.getElem?_append_right (Nat.le_refl _), Nat.sub_self] at hk
    cases hk
    simp [h.start_le, hstop]
  · rw [List.getElem?_append_right (Nat.le_of_lt hn)] at hk
    obtain ⟨d, hd⟩ := Nat.exists_eq_add_of_lt hn
    have hbelow : below[d]? = some k := by
      rw [← hk, hd]
      simp [show above.length + d + 1 - above.length = d + 1 by omega]
    have hbefore := h.before k (List.mem_of_getElem? hbelow)
    omega

end LiesOn

theorem locate?_split_eq_none {t : Text} {i : Nat} (h : t.length < i) :
    locate? (Line.split t) i = none :=
  locateFrom_eq_none fun _ hl => Nat.lt_of_le_of_lt (Line.bounds_of_mem_split hl).2 h

theorem Line.exists_liesOn_split {t : Text} (ht : t ≠ []) {i : Nat} (h : i ≤ t.length) :
    ∃ above l below, LiesOn (split t) i above l below ∧ (i < t.length → i < l.span.stop) := by
  have hsplit := exists_liesOn 0 (texts t) (by rwa [Ne, texts_eq_nil_iff]) (Nat.zero_le i)
    (by rwa [flatten_texts, Nat.zero_add])
  rwa [flatten_texts, Nat.zero_add] at hsplit

section
variable {t : Text} {i : Nat} (h : i < t.length)
include h

theorem Line.exists_liesOn_lineAt : ∃ above l below, LiesOn (split t) i above l below ∧
    i < l.span.stop ∧ above.length = lineAt t i := by
  obtain ⟨above, l, below, hon, hlt⟩ :=
    exists_liesOn_split (List.ne_nil_of_length_pos (Nat.zero_lt_of_lt h)) (Nat.le_of_lt h)
  have hfound := hon.locateFrom_eq 0
  have hline := locate?_split h
  rw [locate?, hfound, Nat.zero_add] at hline
  exact ⟨above, l, below, hon, hlt h, congrArg Prod.fst (Option.some.inj hline)⟩

/-- The line with number `n` holds just the positions with `n` line ends in front of them. -/
theorem Line.contains_iff_lineAt {n : Nat} {l : Line} (hl : (split t)[n]? = some l) :
    l.span.contains i = true ↔ lineAt t i = n := by
  obtain ⟨above, k, below, hon, hstop, habove⟩ := exists_liesOn_lineAt h
  rw [hon.contains_iff hstop hl, ← habove, eq_comm]

theorem Line.lineAt_lt_length : lineAt t i < (split t).length := by
  obtain ⟨above, k, below, hon, -, habove⟩ := exists_liesOn_lineAt h
  simp [hon.lines_eq, ← habove]

end

theorem Line.lineAt_mono (t : Text) {i j : Nat} (h : i ≤ j) : lineAt t i ≤ lineAt t j :=
  ((List.range_sublist.mpr h).filter _).length_le

end SqlTemplate.Excerpt
