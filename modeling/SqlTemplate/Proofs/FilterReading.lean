import SqlTemplate.Log.Filter
import SqlTemplate.Proofs.PatternNumbers

/-! # Filters that are read to the end

A directive is read without the blanks around it, but cut by byte offsets in the text that it was
given as. Where the blanks in front are none, or all characters take a byte, these offsets lie
between characters, and the text is read as a filter or not, without a cut inside a character.
-/
namespace SqlTemplate

namespace Text

theorem IsBoundary.le {t : Text} {i : Nat} (h : t.IsBoundary i) : i ≤ t.byteSize := by
  obtain ⟨before, after, rfl, rfl⟩ := h
  rw [byteSize_append]
  exact Nat.le_add_right _ _

/-- Offsets between characters of the trimmed text are between characters of the text as well. -/
def Aligned (t : Text) : Prop := ∀ i, (trim t).IsBoundary i → t.IsBoundary i

theorem isPrefix_trimEnd (t : Text) : trimEnd t <+: t := by
  rw [trimEnd, ← List.reverse_suffix, List.reverse_reverse]
  exact List.dropWhile_suffix _

theorem trim_sublist (t : Text) : List.Sublist (trim t) t :=
  (isPrefix_trimEnd _).sublist.trans (List.dropWhile_sublist _)

theorem aligned_of_not_blank {t : Text} (h : ∀ c ∈ t.head?, isBlank c = false) : Aligned t := by
  intro i hi
  obtain ⟨front, rest, htrim, rfl⟩ := hi
  have hdrop : t.dropWhile isBlank = t := by
    cases t with
    | nil => rfl
    | cons c t => rw [List.dropWhile_cons, h c rfl, if_neg Bool.false_ne_true]
  rw [trim, hdrop] at htrim
  obtain ⟨blanks, hblanks⟩ := isPrefix_trimEnd t
  exact ⟨front, rest ++ blanks, by rw [← List.append_assoc, ← htrim, hblanks], rfl⟩

theorem aligned_of_ascii {t : Text} (h : ∀ c ∈ t, c.toNat < 128) : Aligned t := by
  intro i hi
  obtain ⟨front, rest, htrim, rfl⟩ := hi
  have hsub : List.Sublist (front ++ rest) t := htrim ▸ trim_sublist t
  have hlength := hsub.length_le
  rw [List.length_append] at hlength
  have hfront : front.byteSize = front.length :=
    (byteSize_eq_length_iff front).mpr fun c hc => h c (hsub.subset (List.mem_append_left _ hc))
  have htake : byteSize (t.take front.length) = (t.take front.length).length :=
    (byteSize_eq_length_iff _).mpr fun c hc => h c (List.mem_of_mem_take hc)
  refine ⟨t.take front.length, t.drop front.length, (List.take_append_drop _ t).symm, ?_⟩
  rw [htake, hfront, List.length_take_of_le (by omega)]

end Text

namespace Log

/-- Reading gives a result or finds no directive. -/
def Completes {α : Type} (r : Except FilterError α) : Prop := r ≠ .error .insideCharacter

section Steps

variable {α β : Type}

theorem completes_ok (a : α) : Completes (.ok a) := by
  intro h
  cases h

theorem completes_noDirective : Completes (.error .noDirective : Except FilterError α) := by
  intro h
  cases h

theorem Completes.bind {r : Except FilterError α} {f : α → Except FilterError β}
    (h : Completes r) (hf : ∀ a, Completes (f a)) : Completes (r >>= f) := by
  cases r with
  | ok a => exact hf a
  | error e =>
    intro hbind
    cases hbind
    exact h rfl

theorem completes_mapM {f : α → Except FilterError β} {as : List α}
    (h : ∀ a ∈ as, Completes (f a)) : Completes (as.mapM f) := by
  induction as with
  | nil => exact completes_ok []
  | cons a as ih =>
    obtain ⟨ha, has⟩ := List.forall_mem_cons.mp h
    rw [List.mapM_cons]
    exact ha.bind fun b => (ih has).bind fun bs => completes_ok (b :: bs)

end Steps

namespace Directive

theorem completes_found {α : Type} (o : Option α) : Completes (found o) := by
  cases o with
  | none => exact completes_noDirective
  | some a => exact completes_ok a

theorem completes_cut {t : Text} {i j : Nat} (hi : t.IsBoundary i) (hj : t.IsBoundary j)
    (h : i ≤ j) : Completes (cut t i j) := by
  obtain ⟨w, hw⟩ := Text.exists_cut?_eq_some hi hj h
  rw [cut, hw]
  exact completes_ok w

/-- What is left to read of a directive stands at the offset of the trimmed text. -/
def Leaves (given : Text) (offset : Nat) (rest : Text) : Prop :=
  ∃ front, Text.trim given = front ++ rest ∧ front.byteSize = offset

variable {given : Text} {offset : Nat}

theorem Leaves.append {w rest : Text} (h : Leaves given offset (w ++ rest)) :
    Leaves given (offset + w.byteSize) rest := by
  obtain ⟨front, htrim, rfl⟩ := h
  exact ⟨front ++ w, by rw [htrim, List.append_assoc], Text.byteSize_append front w⟩

theorem Leaves.boundary {rest : Text} (h : Leaves given offset rest)
    (haligned : given.Aligned) : given.IsBoundary offset := by
  obtain ⟨front, htrim, rfl⟩ := h
  exact haligned _ ⟨front, rest, htrim, rfl⟩

/-- A name is read up to the first character that does not belong to it. -/
theorem Leaves.behind_takeWhile {rest behind : Text} {c : Char} {p : Char → Bool}
    (h : Leaves given offset rest)
    (hdrop : rest.drop (rest.takeWhile p).length = c :: behind) :
    p c = false ∧ Leaves given (offset + Text.byteSize (rest.takeWhile p)) (c :: behind) := by
  have hrest : rest.takeWhile p ++ rest.dropWhile p = rest := List.takeWhile_append_dropWhile
  have hbehind : rest.dropWhile p = c :: behind := by
    rw [← hdrop]
    nth_rewrite 3 [← hrest]
    exact List.drop_left.symm
  have hstop := List.head?_dropWhile_not p rest
  rw [hbehind] at hstop hrest
  exact ⟨hstop, Leaves.append (by rwa [hrest])⟩

variable (haligned : given.Aligned)
include haligned

theorem completes_cut_of_leaves {rest behind : Text} {w : Text} (h : Leaves given offset rest)
    (hbehind : Leaves given (offset + w.byteSize) behind) :
    Completes (cut given offset (offset + w.byteSize)) :=
  completes_cut (h.boundary haligned) (hbehind.boundary haligned) (Nat.le_add_right _ _)

theorem completes_readVerbosity {rest : Text} (h : Leaves given (offset + 1) rest) :
    Completes (readVerbosity given offset) := by
  have hstart := h.boundary haligned
  have hstop : given.IsBoundary given.byteSize := ⟨given, [], (List.append_nil given).symm, rfl⟩
  exact (completes_cut hstart hstop hstart.le).bind fun text => completes_found _

theorem completes_readEnd (target : Text) (span : Option Text)
    (field : Option (Text × Option Text)) {rest : Text} (h : Leaves given offset rest) :
    Completes (readEnd target span field given offset rest) := by
  unfold readEnd
  split
  · exact completes_ok _
  · have hsign := h.append (w := ['='])
    exact (completes_readVerbosity haligned hsign).bind fun v => completes_ok _
  · exact completes_noDirective

theorem completes_readField (target span : Text) {rest : Text} (h : Leaves given offset rest) :
    Completes (readField target span given offset rest) := by
  unfold readField
  dsimp only
  split
  · exact completes_noDirective
  · next c behind hdrop =>
    obtain ⟨hbrace, hbehind⟩ := h.behind_takeWhile hdrop
    refine (completes_cut_of_leaves haligned h hbehind).bind fun text =>
      (completes_found _).bind fun value => ?_
    split
    · next behind =>
      obtain rfl : c = '\x7d' := by simpa using hbrace
      have hclosed := hbehind.append (w := ['\x7d', ']'])
      exact completes_readEnd haligned target _ _ hclosed
    · exact completes_noDirective

theorem completes_readBrackets (target : Text) {rest : Text} (h : Leaves given offset rest) :
    Completes (readBrackets target given offset rest) := by
  unfold readBrackets
  dsimp only
  split
  · exact completes_noDirective
  · next c behind hdrop =>
    obtain ⟨hend, hbehind⟩ := h.behind_takeWhile hdrop
    refine (completes_cut_of_leaves haligned h hbehind).bind fun span => ?_
    split
    · next hbracket =>
      subst hbracket
      have hclosed := hbehind.append (w := [']'])
      exact completes_readEnd haligned target _ _ hclosed
    · next hbracket =>
      obtain rfl : c = '\x7b' := by simpa [hbracket] using hend
      have hopened := hbehind.append (w := ['\x7b'])
      exact completes_readField haligned target span hopened

/-- A directive is read to its end where the blanks in front of it do not shift the cuts into a
character. -/
theorem completes_read : Completes (read given) := by
  have hwhole : Leaves given 0 (Text.trim given) := ⟨[], rfl, rfl⟩
  unfold read
  split
  · exact completes_noDirective
  · next rest htrim =>
    rw [htrim] at hwhole
    have hopened := hwhole.append (w := ['['])
    exact completes_readBrackets haligned [] hopened
  · next c rest hbracket htrim =>
    rw [htrim] at hwhole
    dsimp only
    split
    · exact completes_noDirective
    · split
      · exact completes_ok _
      · next d behind hdrop =>
        obtain ⟨hend, hbehind⟩ := hwhole.behind_takeWhile hdrop
        rw [Nat.zero_add] at hbehind
        have htarget := completes_cut (hwhole.boundary haligned) (hbehind.boundary haligned)
          (Nat.zero_le _)
        refine htarget.bind fun target => ?_
        split
        · next hsign =>
          subst hsign
          have hlevel := hbehind.append (w := ['='])
          exact (completes_readVerbosity haligned hlevel).bind fun v => completes_ok _
        · next hsign =>
          obtain rfl : d = '[' := by simpa [hsign] using hend
          have hopened := hbehind.append (w := ['['])
          exact completes_readBrackets haligned target hopened

end Directive

/-- The target `é` takes two bytes, but behind the blank the second byte is the first of `é`. -/
example : Directive.read " é=debug".toList = .error .insideCharacter := by
  decide +kernel

namespace Filter

theorem completes_read {t : Text} (h : ∀ p ∈ parts t, p.Aligned) : Completes (read t) :=
  (completes_mapM fun p hp => Directive.completes_read (h p hp)).bind fun _ => completes_ok _

/-- A filter that is set, if one is, is read as a filter or not. -/
def Answers (set : Option Text) : Prop := ∀ t, set = some t → Completes (read t)

theorem answers_none : Answers none := by
  intro t ht
  cases ht

theorem answers_some_iff {t : Text} : Answers (some t) ↔ Completes (read t) := by
  constructor
  · exact fun h => h t rfl
  · intro h t' ht
    obtain rfl := Option.some.inj ht
    exact h

/-- It is read so where each of its parts begins without a blank or is ASCII. -/
theorem answers_of_parts {t : Text}
    (h : ∀ p ∈ parts t, (∀ c ∈ p.head?, Text.isBlank c = false) ∨ ∀ c ∈ p, c.toNat < 128) :
    Answers (some t) := by
  refine answers_some_iff.mpr (completes_read fun p hp => ?_)
  rcases h p hp with hblank | hascii
  · exact Text.aligned_of_not_blank hblank
  · exact Text.aligned_of_ascii hascii

end Filter
end Log
end SqlTemplate
