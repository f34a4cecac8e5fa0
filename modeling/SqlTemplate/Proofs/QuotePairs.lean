import SqlTemplate.Token

/-! # Doubled quotes in the body of a literal

Every quote of a content stands twice in the body, so the body has an even number of quotes, and
reading its pairs from left to right gives the content back.
-/
namespace SqlTemplate.Token

@[simp] theorem doubleQuotes_nil : doubleQuotes [] = [] := rfl

@[simp] theorem doubleQuotes_quote_cons (c : Text) :
    doubleQuotes (quote :: c) = quote :: quote :: doubleQuotes c := by
  simp [doubleQuotes]

theorem doubleQuotes_cons_of_ne {x : Char} (hx : x ≠ quote) (c : Text) :
    doubleQuotes (x :: c) = x :: doubleQuotes c := by
  simp [doubleQuotes, hx]

@[simp] theorem doubleQuotes_append (c d : Text) :
    doubleQuotes (c ++ d) = doubleQuotes c ++ doubleQuotes d := by
  simp [doubleQuotes]

theorem doubleQuotes_eq_nil_iff {c : Text} : doubleQuotes c = [] ↔ c = [] := by
  cases c with
  | nil => simp
  | cons x c => by_cases hx : x = quote <;> simp [doubleQuotes, hx]

theorem count_quote_doubleQuotes (c : Text) :
    (doubleQuotes c).count quote = 2 * c.count quote := by
  induction c with
  | nil => rfl
  | cons x c ih =>
    by_cases hx : x = quote
    · subst hx
      simp only [doubleQuotes_quote_cons, List.count_cons_self, ih]
      omega
    · simp only [doubleQuotes_cons_of_ne hx, List.count_cons_of_ne hx, ih]

/-- One quote more is never a body: it would leave a quote without its pair. -/
theorem doubleQuotes_ne_append_quote (c d : Text) :
    doubleQuotes c ≠ doubleQuotes d ++ [quote] := by
  intro h
  have hc := congrArg (List.count quote) h
  simp only [List.count_append, List.count_singleton_self, count_quote_doubleQuotes] at hc
  omega

theorem doubleQuotes_eq_quote_cons {c r : Text} (h : doubleQuotes c = quote :: r) :
    ∃ d, c = quote :: d ∧ r = quote :: doubleQuotes d := by
  cases c with
  | nil => simp at h
  | cons x c =>
    by_cases hx : x = quote
    · subst hx
      rw [doubleQuotes_quote_cons] at h
      exact ⟨c, rfl, (List.cons.inj h).2.symm⟩
    · rw [doubleQuotes_cons_of_ne hx] at h
      exact absurd (List.cons.inj h).1 hx

/-- What is left of a body behind another body is a body. -/
theorem doubleQuotes_eq_append {c d r : Text} (h : doubleQuotes d = doubleQuotes c ++ r) :
    ∃ e, d = c ++ e ∧ r = doubleQuotes e := by
  induction c generalizing d with
  | nil => exact ⟨d, rfl, h.symm⟩
  | cons x c ih =>
    by_cases hx : x = quote
    · subst hx
      obtain ⟨d', rfl, hd⟩ := doubleQuotes_eq_quote_cons (by simpa using h)
      obtain ⟨e, rfl, he⟩ := ih (List.cons.inj hd).2.symm
      exact ⟨e, rfl, he⟩
    · rw [doubleQuotes_cons_of_ne hx, List.cons_append] at h
      cases d with
      | nil => simp at h
      | cons y d =>
        by_cases hy : y = quote
        · subst hy
          rw [doubleQuotes_quote_cons] at h
          exact absurd (List.cons.inj h).1.symm hx
        · rw [doubleQuotes_cons_of_ne hy] at h
          obtain ⟨rfl, htail⟩ := List.cons.inj h
          obtain ⟨e, rfl, he⟩ := ih htail
          exact ⟨e, rfl, he⟩

/-- Replacing pairs of quotes from left to right undoes the doubling, on any run of quotes. -/
theorem replace_doubleQuotes (c : Text) :
    (doubleQuotes c).replace [quote, quote] [quote] = c := by
  change Text.replaceFrom [quote, quote] [quote] 0 (doubleQuotes c) = c
  induction c with
  | nil => rfl
  | cons x c ih =>
    by_cases hx : x = quote
    · subst hx
      simp [Text.replaceFrom, ih]
    · have hp : [quote, quote].isPrefixOf (x :: doubleQuotes c) = false := by
        simp [List.isPrefixOf, Ne.symm hx]
      rw [doubleQuotes_cons_of_ne hx, Text.replaceFrom, hp]
      simp [ih]

end SqlTemplate.Token
