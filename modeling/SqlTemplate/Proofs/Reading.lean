import SqlTemplate.Toml.Trivia

/-! # What a reader takes off the front of a text

A reading is put together from those of its parts, each described by the characters that it takes
and what is left behind them. Where it starts in the document matters to the spans in its value
only, so a property of the value is carried along and not the value itself.
-/
namespace SqlTemplate.Toml

namespace Reader

variable {α β : Type} {r : Reader α} {f : α → Reader β} {P P' : α → Prop} {Q : β → Prop}
  {u v w t rest : Text}

/-- The reader takes the characters before the rest, with a value as described. -/
def Takes (r : Reader α) (w rest : Text) (P : α → Prop) : Prop :=
  ∀ o, ∃ a, r ⟨o, w ++ rest⟩ = .ok (a, ⟨o + w.byteSize, rest⟩) ∧ P a

/-- The reader leaves the text to an alternative. -/
def Declines (r : Reader α) (t : Text) : Prop :=
  ∀ o, ∃ e, r ⟨o, t⟩ = .error e ∧ e.committed = false

theorem bind_apply (r : Reader α) (f : α → Reader β) (c : Cursor) :
    (r >>= f) c = match r c with
      | .ok (a, c') => f a c'
      | .error e => .error e := by
  show (r c >>= fun x => f x.1 x.2) = _
  cases r c <;> rfl

theorem Takes.mono (h : Takes r w rest P) (imp : ∀ a, P a → P' a) : Takes r w rest P' := by
  intro o
  obtain ⟨a, ha, hP⟩ := h o
  exact ⟨a, ha, imp a hP⟩

theorem takes_pure {a : α} (h : P a) : Takes (pure a) [] rest P := by
  intro o
  exact ⟨a, rfl, h⟩

theorem Takes.bind (h : Takes r u (v ++ rest) P) (next : ∀ a, P a → Takes (f a) v rest Q) :
    Takes (r >>= f) (u ++ v) rest Q := by
  intro o
  obtain ⟨a, ha, hP⟩ := h o
  obtain ⟨b, hb, hQ⟩ := next a hP (o + u.byteSize)
  refine ⟨b, ?_, hQ⟩
  rw [bind_apply, List.append_assoc, ha, Text.byteSize_append, ← Nat.add_assoc]
  exact hb

/-- The second reader takes nothing more. -/
theorem Takes.bind_done (h : Takes r w rest P) (next : ∀ a, P a → Takes (f a) [] rest Q) :
    Takes (r >>= f) w rest Q := by
  have := Takes.bind (v := []) h next
  rwa [List.append_nil] at this

theorem Takes.bind_pure {g : α → β} (h : Takes r w rest P) (hg : ∀ a, P a → Q (g a)) :
    Takes (r >>= fun a => pure (g a)) w rest Q :=
  h.bind_done fun a ha => takes_pure (hg a ha)

section KnownValue

variable {a : α}

theorem Takes.bind_eq (h : Takes r u (v ++ rest) (· = a)) (next : Takes (f a) v rest Q) :
    Takes (r >>= f) (u ++ v) rest Q := by
  apply h.bind
  rintro _ rfl
  exact next

/-- The second reader goes on where the first one only looked. -/
theorem Takes.look (h : Takes r [] (w ++ rest) (· = a)) (next : Takes (f a) w rest Q) :
    Takes (r >>= f) w rest Q :=
  Takes.bind_eq (u := []) h next

theorem Takes.bind_pure_eq {g : α → β} (h : Takes r w rest (· = a)) (hg : Q (g a)) :
    Takes (r >>= fun a => pure (g a)) w rest Q := by
  apply h.bind_pure
  rintro _ rfl
  exact hg

end KnownValue

theorem Declines.bind (h : Declines r t) : Declines (r >>= f) t := by
  intro o
  obtain ⟨e, he, hc⟩ := h o
  exact ⟨e, by rw [bind_apply, he], hc⟩

theorem Takes.bind_declines {a : α} (h : Takes r w rest (· = a)) (next : Declines (f a) rest) :
    Declines (r >>= f) (w ++ rest) := by
  intro o
  obtain ⟨_, ha, rfl⟩ := h o
  obtain ⟨e, he, hc⟩ := next (o + w.byteSize)
  refine ⟨e, ?_, hc⟩
  rw [bind_apply, ha]
  exact he

theorem Takes.look_declines {a : α} (h : Takes r [] t (· = a)) (next : Declines (f a) t) :
    Declines (r >>= f) t :=
  Takes.bind_declines (w := []) h next

theorem declines_fail : Declines (fail : Reader α) t := fun o => ⟨failAt o none, rfl, rfl⟩

theorem Takes.mapFailure {g : Failure → Failure} (h : Takes r w rest P) :
    Takes (mapFailure g r) w rest P := by
  intro o
  obtain ⟨a, ha, hP⟩ := h o
  exact ⟨a, by rw [Reader.mapFailure, ha], hP⟩

theorem Declines.mapFailure {g : Failure → Failure} (h : Declines r t)
    (keeps : ∀ e, (g e).committed = e.committed) : Declines (mapFailure g r) t := by
  intro o
  obtain ⟨e, he, hc⟩ := h o
  exact ⟨g e, by rw [Reader.mapFailure, he], (keeps e).trans hc⟩

theorem Takes.commit (h : Takes r w rest P) : Takes (commit r) w rest P := h.mapFailure

theorem Takes.inside {k : Construct} (h : Takes r w rest P) : Takes (inside k r) w rest P :=
  h.mapFailure

theorem Takes.expecting {es : List Expected} (h : Takes r w rest P) :
    Takes (expecting es r) w rest P :=
  h.mapFailure

theorem Declines.inside {k : Construct} (h : Declines r t) : Declines (inside k r) t :=
  h.mapFailure fun _ => rfl

theorem Takes.either_left {s : Reader α} (h : Takes r w rest P) :
    Takes (either r s) w rest P := by
  intro o
  obtain ⟨a, ha, hP⟩ := h o
  exact ⟨a, by rw [either, ha], hP⟩

theorem Declines.either_apply {s : Reader α} (h : Declines r t) (o : Nat) :
    either r s ⟨o, t⟩ = s ⟨o, t⟩ := by
  obtain ⟨e, he, hc⟩ := h o
  rw [either, he]
  simp [hc]

theorem Takes.either_right {s : Reader α} (h : Declines r (w ++ rest)) (hs : Takes s w rest P) :
    Takes (either r s) w rest P := by
  intro o
  rw [h.either_apply]
  exact hs o

theorem Declines.either {s : Reader α} (h : Declines r t) (hs : Declines s t) :
    Declines (either r s) t := by
  intro o
  rw [h.either_apply]
  exact hs o

theorem Takes.optional (h : Takes r w rest P) :
    Takes (optional r) w rest fun a? => ∃ a, a? = some a ∧ P a := by
  intro o
  obtain ⟨a, ha, hP⟩ := h o
  exact ⟨some a, by rw [Reader.optional, ha], a, rfl, hP⟩

theorem Declines.optional (h : Declines r t) : Takes (optional r) [] t (· = none) := by
  intro o
  obtain ⟨e, he, hc⟩ := h o
  refine ⟨none, ?_, rfl⟩
  rw [List.nil_append, Reader.optional, he]
  simp [hc]

theorem Takes.convert {g : α → Except Cause β} (h : Takes r w rest P)
    (accepts : ∀ a, P a → ∃ b, g a = .ok b ∧ Q b) : Takes (convert g r) w rest Q := by
  intro o
  obtain ⟨a, ha, hP⟩ := h o
  obtain ⟨b, hb, hQ⟩ := accepts a hP
  exact ⟨b, by simp only [Reader.convert, ha, hb], hQ⟩

theorem Takes.spanned (h : Takes r w rest P) : Takes (spanned r) w rest fun x => P x.1 := by
  intro o
  obtain ⟨a, ha, hP⟩ := h o
  exact ⟨(a, ⟨o, o + w.byteSize⟩), by rw [Reader.spanned, ha], hP⟩

theorem takes_peek? : Takes peek? [] t (· = t.head?) := fun _ => ⟨_, rfl, rfl⟩

theorem takes_remaining : Takes remaining [] t (· = t) := fun _ => ⟨_, rfl, rfl⟩

theorem takes_endOfText : Takes endOfText [] [] (· = ()) := fun _ => ⟨_, rfl, rfl⟩

section Characters

variable {p : Char → Bool} {c d : Char}

theorem takes_satisfy (h : p c = true) : Takes (satisfy p) [c] rest (· = c) := by
  intro o
  exact ⟨c, by simp [satisfy, h], rfl⟩

theorem declines_satisfy_nil : Declines (satisfy p) [] := fun o => ⟨failAt o none, rfl, rfl⟩

theorem declines_satisfy_cons (h : p c = false) : Declines (satisfy p) (c :: rest) := by
  intro o
  exact ⟨failAt o none, by simp [satisfy, h, fail], rfl⟩

theorem takes_char : Takes (char c) [c] rest (· = c) := takes_satisfy (beq_self_eq_true c)

theorem declines_char (h : t.head? ≠ some c) : Declines (char c) t := by
  cases t with
  | nil => exact declines_satisfy_nil
  | cons d r =>
    have hd : d ≠ c := by simpa using h
    exact declines_satisfy_cons (by simpa using hd)

theorem declines_char_cons (h : d ≠ c) : Declines (char c) (d :: rest) :=
  declines_char (by simpa using h)

theorem takes_word : Takes (word w) w rest (· = w) := by
  intro o
  exact ⟨w, by simp [word], rfl⟩

theorem declines_word (h : ¬ w <+: t) : Declines (word w) t := by
  intro o
  refine ⟨failAt o none, ?_, rfl⟩
  rw [word, if_neg (by simpa using h)]
  rfl

/-- The characters are all those of the class that come next. -/
structure Exhausts (p : Char → Bool) (w rest : Text) : Prop where
  all : ∀ c ∈ w, p c = true
  stops : ∀ c ∈ rest.head?, p c = false

theorem exhausts_cons (all : ∀ c ∈ w, p c = true) (h : p d = false) :
    Exhausts p w (d :: rest) := by
  refine ⟨all, ?_⟩
  rintro _ ⟨⟩
  exact h

theorem exhausts_nil (stops : ∀ c ∈ rest.head?, p c = false) : Exhausts p [] rest :=
  ⟨List.forall_mem_nil _, stops⟩

theorem Exhausts.takeWhile_eq (h : Exhausts p w rest) : (w ++ rest).takeWhile p = w := by
  have hrest : rest.takeWhile p = [] := by
    cases rest with
    | nil => rfl
    | cons c r => simp [h.stops c rfl]
  rw [List.takeWhile_append_of_pos h.all, hrest, List.append_nil]

theorem Exhausts.dropWhile_eq (h : Exhausts p w rest) : (w ++ rest).dropWhile p = rest := by
  rw [List.dropWhile_append_of_pos h.all]
  cases rest with
  | nil => rfl
  | cons c r => simp [h.stops c rfl]

theorem Exhausts.takes (h : Exhausts p w rest) : Takes (takeWhile p) w rest (· = w) := by
  intro o
  exact ⟨w, by simp only [takeWhile, h.takeWhile_eq, h.dropWhile_eq], rfl⟩

theorem Exhausts.takes1 (h : Exhausts p w rest) (hw : w ≠ []) :
    Takes (takeWhile1 p) w rest (· = w) := by
  intro o
  refine ⟨w, ?_, rfl⟩
  simp only [takeWhile1, h.takeWhile_eq, h.dropWhile_eq]

end Characters

section Repetition

variable {R S : List α → Prop}

/-- The reader takes the characters in several goes, and no more behind them. -/
def Repeats (r : Reader α) (w rest : Text) (R : List α → Prop) : Prop :=
  ∀ n, (w ++ rest).length ≤ n → Takes (manyUpTo n r) w rest R

theorem Declines.repeats (h : Declines r t) (hR : R []) : Repeats r [] t R := by
  intro n _ o
  refine ⟨[], ?_, hR⟩
  cases n with
  | zero => rfl
  | succ n =>
    obtain ⟨e, he, hc⟩ := h o
    simp [manyUpTo, he, hc]

theorem Takes.repeats (h : Takes r u (v ++ rest) P) (hu : u ≠ []) (hs : Repeats r v rest S)
    (hR : ∀ a as, P a → S as → R (a :: as)) : Repeats r (u ++ v) rest R := by
  intro n hn o
  have hpos : 0 < u.length := List.length_pos_iff.mpr hu
  obtain ⟨a, ha, hP⟩ := h o
  cases n with
  | zero =>
    simp only [List.length_append] at hn
    omega
  | succ n =>
    have hn' : (v ++ rest).length ≤ n := by
      simp only [List.length_append] at hn ⊢
      omega
    obtain ⟨as, has, hS⟩ := hs n hn' (o + u.byteSize)
    refine ⟨a :: as, ?_, hR a as hP hS⟩
    simp only [manyUpTo, List.append_assoc, ha, has, Text.byteSize_append, Nat.add_assoc]
    rfl

theorem Takes.repeats_eq {a : α} {as : List α} (h : Takes r u (v ++ rest) (· = a)) (hu : u ≠ [])
    (hs : Repeats r v rest (· = as)) : Repeats r (u ++ v) rest (· = a :: as) := by
  apply h.repeats hu hs
  rintro _ _ rfl rfl
  rfl

theorem Takes.repeats_flatten {r : Reader Text} {s s' : Text} (h : Takes r u (v ++ rest) (· = s))
    (hu : u ≠ []) (hs : Repeats r v rest (·.flatten = s')) :
    Repeats r (u ++ v) rest (·.flatten = s ++ s') := by
  apply h.repeats hu hs
  rintro _ _ rfl rfl
  rfl

theorem Repeats.many (h : Repeats r w rest R) : Takes (many r) w rest R := by
  intro o
  exact h (w ++ rest).length (Nat.le_refl _) o

theorem Declines.many (h : Declines r t) : Takes (many r) [] t (· = []) := by
  have hnone : Repeats r [] t (· = []) := h.repeats rfl
  exact hnone.many

end Repetition

end Reader

section Trivia

open Reader

variable {w rest : Text}

theorem takes_blanks (h : Exhausts isBlank w rest) : Takes blanks w rest (· = ()) :=
  h.takes.bind_pure_eq rfl

theorem takes_newline : Takes newline ['\n'] rest (· = ()) :=
  Takes.bind_eq (v := []) (takes_satisfy rfl) (takes_pure rfl)

theorem declines_newline {c : Char} (hn : c ≠ '\n') (hr : c ≠ '\r') :
    Declines newline (c :: rest) := by
  apply Takes.bind_declines (w := [c]) (takes_satisfy rfl)
  split
  · exact absurd rfl hn
  · exact absurd rfl hr
  · exact declines_fail

end Trivia

end SqlTemplate.Toml
