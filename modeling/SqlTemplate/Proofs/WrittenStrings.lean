import Mathlib.Data.List.TakeWhile
import Mathlib.Tactic.SplitIfs
import SqlTemplate.Proofs.Reading
import SqlTemplate.Toml.Quoted
import SqlTemplate.Toml.StringForm

/-! # A string reads as what was written

A reader of strings takes a written string off any text that does not go on with a delimiter, and
gives back the characters that were written, in each of the four forms.
-/
namespace SqlTemplate.Toml

open Reader

variable {c d q : Char} {s t u w rest : Text}

section Writing

theorem StringForm.write_basic (t : Text) :
    StringForm.basic.write t = ['"'] ++ (escapeFrom false 0 0 t ++ ['"']) := by
  simp [StringForm.write, StringForm.delimiter, StringForm.multiline, StringForm.body]

theorem StringForm.write_literal (t : Text) :
    StringForm.literal.write t = ['\''] ++ (t ++ ['\'']) := by
  simp [StringForm.write, StringForm.delimiter, StringForm.multiline, StringForm.body]

theorem StringForm.write_multilineBasic (t : Text) :
    StringForm.multilineBasic.write t = ['"', '"', '"'] ++
      ((if t.contains '\n' then ['\n'] else []) ++
        (escapeFrom true 2 0 t ++ ['"', '"', '"'])) := by
  simp [StringForm.write, StringForm.delimiter, StringForm.multiline, StringForm.body]

theorem StringForm.write_multilineLiteral (t : Text) :
    StringForm.multilineLiteral.write t = ['\'', '\'', '\''] ++
      ((if t.contains '\n' then ['\n'] else []) ++ (t ++ ['\'', '\'', '\''])) := by
  simp [StringForm.write, StringForm.delimiter, StringForm.multiline, StringForm.body]

theorem needsEscape_eq_false_iff : needsEscape c = false ↔
    (0x20 ≤ c.toNat ∨ c = '\t' ∨ c = '\n') ∧ c.toNat ≠ 0x7f := by
  simp only [needsEscape, Bool.or_eq_false_iff, Bool.and_eq_false_iff, decide_eq_false_iff_not,
    bne_eq_false_iff_eq, beq_eq_false_iff_ne, Nat.not_lt, or_assoc]

theorem isLiteralChar_of_not_needsEscape (h : needsEscape c = false) (hq : c ≠ '\'')
    (hn : c ≠ '\n') : isLiteralChar c = true := by
  obtain ⟨h, hdel⟩ := needsEscape_eq_false_iff.mp h
  simp only [hn, or_false] at h
  rcases h with h | rfl
  · simp [isLiteralChar, h, hdel, hq]
  · rfl

end Writing

section Escapes

theorem hexDigit_spec : ∀ d < 16, let c := (Nat.digitChar d).toUpper
    hexValue c = d ∧ isHexDigit c = true ∧ c.utf8Size = 1 := by
  decide

theorem ofDigits_hex4 {n : Nat} (h : n < 65536) : ofDigits 16 (hex4 n) = n := by
  have value (k : Nat) : hexValue (Nat.digitChar (k % 16)).toUpper = k % 16 :=
    (hexDigit_spec (k % 16) (Nat.mod_lt k (by decide))).1
  simp only [ofDigits, hex4, List.map_cons, List.map_nil, List.foldl_cons, List.foldl_nil, value]
  omega

theorem all_isHexDigit_hex4 (n : Nat) : ∀ c ∈ hex4 n, isHexDigit c = true := by
  intro c hc
  obtain ⟨d, hd, rfl⟩ := List.mem_map.mp hc
  have hd16 : d < 16 := by
    simp only [List.mem_cons, List.not_mem_nil, or_false] at hd
    omega
  exact (hexDigit_spec d hd16).2.1

theorem byteSize_hex4 (n : Nat) : Text.byteSize (hex4 n) = 4 := by
  have size (k : Nat) : (Nat.digitChar (k % 16)).toUpper.utf8Size = 1 :=
    (hexDigit_spec (k % 16) (Nat.mod_lt k (by decide))).2.2
  simp [hex4, size]

theorem takes_codePoint_hex4 (h : c.toNat < 65536) :
    Takes (codePoint 4) (hex4 c.toNat) rest (· = c) := by
  refine Takes.convert (P := (· = c.toNat)) ?_ ?_
  · intro o
    have htake : (hex4 c.toNat ++ rest).take 4 = hex4 c.toNat := rfl
    have hwhile : (hex4 c.toNat).takeWhile isHexDigit = hex4 c.toNat :=
      List.takeWhile_eq_self_iff.mpr (all_isHexDigit_hex4 c.toNat)
    refine ⟨c.toNat, ?_, rfl⟩
    simp only [htake, hwhile, byteSize_hex4, ofDigits_hex4 h]
    rfl
  · rintro n rfl
    have hvalid : c.toNat.isValidChar := c.valid
    exact ⟨c, by rw [if_pos hvalid, Char.ofNat_toNat], rfl⟩

theorem shortEscape?_quote : shortEscape? '"' = some '"' := rfl

theorem takes_escapeCode_of_short (h : shortEscape? d = some c) :
    Takes escapeCode [d] rest (· = c) := by
  apply takes_peek?.look
  have hu : d ≠ 'u' := by
    rintro rfl
    cases h
  have hU : d ≠ 'U' := by
    rintro rfl
    cases h
  simp only [List.singleton_append, List.head?_cons, h]
  exact takes_char.bind_pure_eq rfl

theorem takes_escapeCode_of_hex4 (h : c.toNat < 65536) :
    Takes escapeCode ('u' :: hex4 c.toNat) rest (· = c) := by
  apply takes_peek?.look
  exact Takes.bind_eq (u := ['u']) takes_char (takes_codePoint_hex4 h).inside.commit

/-- A backslash and more, that reads as a character and not as a folded line break. -/
inductive IsEscape : Text → Char → Prop where
  | short {c d : Char} (h : shortEscape? d = some c) : IsEscape ['\\', d] c
  | code {c : Char} (h : c.toNat < 65536) : IsEscape ('\\' :: 'u' :: hex4 c.toNat) c

theorem declines_escape (h : c ≠ '\\') : Declines escape (c :: rest) :=
  (declines_char_cons h).bind

theorem IsEscape.takes (h : IsEscape u c) : Takes escape u rest (· = c) := by
  cases h with
  | short h => exact Takes.bind_eq (u := ['\\']) takes_char (takes_escapeCode_of_short h)
  | code h => exact Takes.bind_eq (u := ['\\']) takes_char (takes_escapeCode_of_hex4 h)

/-- The texts that can stand for a character other than a quotation mark. -/
inductive StandsFor (multiline : Bool) : Text → Char → Prop where
  | itself {c : Char} (h : isBasicChar c = true) : StandsFor multiline [c] c
  | lineBreak (h : multiline = true) : StandsFor multiline ['\n'] '\n'
  | escape {u : Text} {c : Char} (h : IsEscape u c) : StandsFor multiline u c

theorem escapeChar_standsFor (multiline : Bool) (hc : c ≠ '"') :
    StandsFor multiline (escapeChar multiline c) c := by
  unfold escapeChar
  split_ifs with hb ht hn hm hf hr hs he
  · exact .escape (.short (by rw [hb]; rfl))
  · exact .escape (.short (by rw [ht]; rfl))
  · rw [hn]
    exact .lineBreak hm
  · exact .escape (.short (by rw [hn]; rfl))
  · exact .escape (.short (by rw [hf]; rfl))
  · exact .escape (.short (by rw [hr]; rfl))
  · exact .escape (.short (by rw [hs]; rfl))
  · have hsmall : c.toNat < 65536 := by
      by_contra hlarge
      have hno : needsEscape c = false := by
        rw [needsEscape_eq_false_iff]
        omega
      rw [hno] at he
      cases he
    exact .escape (.code hsmall)
  · obtain ⟨hlarge, hdel⟩ := needsEscape_eq_false_iff.mp (Bool.eq_false_iff.mpr he)
    simp only [ht, hn, or_false] at hlarge
    exact .itself (by simp [isBasicChar, hlarge, hdel, hc, hs])

theorem IsEscape.exists_eq_cons (h : IsEscape u c) :
    ∃ d v, u = '\\' :: d :: v ∧ isBlank d = false ∧ d ≠ '\n' ∧ d ≠ '\r' := by
  cases h with
  | @short _ d h =>
    refine ⟨d, [], rfl, ?_, ?_, ?_⟩
    · simp only [isBlank, Bool.or_eq_false_iff, beq_eq_false_iff_ne]
      constructor <;> (rintro rfl; cases h)
    · rintro rfl
      cases h
    · rintro rfl
      cases h
  | code h => exact ⟨'u', _, rfl, by decide⟩

theorem IsEscape.declines_satisfy (h : IsEscape u c) :
    Declines (satisfy isBasicChar) (u ++ rest) := by
  obtain ⟨d, v, rfl, -⟩ := h.exists_eq_cons
  exact declines_satisfy_cons rfl

theorem IsEscape.declines_foldedLines (h : IsEscape u c) : Declines foldedLines (u ++ rest) := by
  obtain ⟨d, v, rfl, hblank, hn, hr⟩ := h.exists_eq_cons
  have hnone : Exhausts isBlank [] (d :: (v ++ rest)) :=
    exhausts_cons (List.forall_mem_nil _) hblank
  have hline : Declines newline (d :: (v ++ rest)) := declines_newline hn hr
  apply Declines.bind
  apply Takes.bind_declines (w := ['\\']) takes_char
  exact (takes_blanks hnone).look_declines hline.bind

theorem StandsFor.exists_eq_cons {multiline : Bool} (h : StandsFor multiline u c) (hc : c ≠ '"') :
    ∃ d v, u = d :: v ∧ d ≠ '"' ∧ d ≠ '\r' ∧ (d = '\n' → c = '\n') := by
  cases h with
  | itself h =>
    refine ⟨c, [], rfl, hc, ?_, id⟩
    rintro rfl
    cases h
  | lineBreak => exact ⟨'\n', [], rfl, by decide⟩
  | escape h =>
    obtain ⟨d, v, rfl, -⟩ := h.exists_eq_cons
    exact ⟨'\\', d :: v, rfl, by decide, by decide, nofun⟩

end Escapes

section OneLine

theorem IsEscape.takes_basicChar (h : IsEscape u c) : Takes basicChar u rest (· = c) :=
  Takes.either_right h.declines_satisfy h.takes

theorem StandsFor.takes_basicChar (h : StandsFor false u c) : Takes basicChar u rest (· = c) := by
  cases h with
  | itself h => exact (takes_satisfy h).either_left
  | lineBreak h => cases h
  | escape h => exact h.takes_basicChar

theorem repeats_basicChar (run : Nat) (t : Text) :
    Repeats basicChar (escapeFrom false 0 run t) ('"' :: rest) (· = t) := by
  induction t generalizing run with
  | nil =>
    have hquote : Declines basicChar ('"' :: rest) :=
      (declines_satisfy_cons rfl).either (declines_escape (by decide))
    exact hquote.repeats rfl
  | cons c r ih =>
    by_cases hc : c = '"'
    · subst hc
      have hquote : IsEscape ['\\', '"'] '"' := .short shortEscape?_quote
      exact hquote.takes_basicChar.repeats_eq (List.cons_ne_nil _ _) (ih 0)
    · have h := escapeChar_standsFor false hc
      obtain ⟨d, v, hv, -⟩ := h.exists_eq_cons hc
      have hne : escapeChar false c ≠ [] := by
        rw [hv]
        exact List.cons_ne_nil _ _
      rw [escapeFrom, if_neg hc]
      exact h.takes_basicChar.repeats_eq hne (ih 0)

theorem takes_basicString (t : Text) :
    Takes basicString (StringForm.basic.write t) rest (· = t) := by
  rw [StringForm.write_basic]
  apply takes_char.bind_eq
  apply (repeats_basicChar 0 t).many.bind_eq
  exact takes_char.inside.commit.bind_pure_eq rfl

theorem takes_literalString (h : ∀ c ∈ t, isLiteralChar c = true) :
    Takes literalString (StringForm.literal.write t) rest (· = t) := by
  have hbody : Exhausts isLiteralChar t ('\'' :: rest) := exhausts_cons h rfl
  rw [StringForm.write_literal]
  apply Takes.inside
  apply takes_char.bind_eq
  apply hbody.takes.bind_eq
  exact takes_char.commit.bind_pure_eq rfl

end OneLine

section Quotes

theorem takes_innerQuotes {n : Nat} (hn : n = 1 ∨ n = 2) (hc : c ≠ q) :
    Takes (innerQuotes q) (List.replicate n q) (c :: rest) (· = List.replicate n q) := by
  apply takes_remaining.look
  rcases hn with rfl | rfl
  · simpa [List.replicate, hc] using takes_word
  · simpa [List.replicate, hc] using takes_word

theorem declines_innerQuotes : Declines (innerQuotes q) (q :: q :: q :: rest) := by
  apply takes_remaining.look_declines
  simpa using declines_fail

/-- Before the closing delimiter and a rest that does not prolong it. -/
theorem takes_lastQuotes {n : Nat} (hn : n ≤ 2) (hrest : rest.head? ≠ some q) :
    Takes (lastQuotes q) (List.replicate n q) (q :: q :: q :: rest) (· = List.replicate n q) := by
  have hword (w : Text)
      (h : Takes (fewQuotes q fun r => r.take 3 == [q, q, q]) w (q :: q :: q :: rest) (· = w)) :
      Takes (lastQuotes q) w (q :: q :: q :: rest) (· = w) := by
    apply h.optional.bind_pure
    rintro _ ⟨_, rfl, rfl⟩
    rfl
  obtain rfl | rfl | rfl : n = 0 ∨ n = 1 ∨ n = 2 := by omega
  · have hnone : Declines (fewQuotes q fun r => r.take 3 == [q, q, q]) (q :: q :: q :: rest) := by
      apply takes_remaining.look_declines
      cases rest with
      | nil => simpa using declines_fail
      | cons c r =>
        have hc : c ≠ q := by simpa using hrest
        simpa [hc] using declines_fail
    exact hnone.optional.bind_pure_eq rfl
  · apply hword
    apply takes_remaining.look
    cases rest with
    | nil => simpa [List.replicate] using takes_word
    | cons c r =>
      have hc : c ≠ q := by simpa using hrest
      simpa [List.replicate, hc] using takes_word
  · apply hword
    apply takes_remaining.look
    simpa [List.replicate] using takes_word

end Quotes

section Multiline

variable {piece after : Reader Text}

/-- A piece of a body, that starts with no delimiting character. -/
structure IsPiece (q : Char) (piece : Reader Text) (u s : Text) : Prop where
  starts : ∃ c v, u = c :: v ∧ c ≠ q
  takes : ∀ rest, Takes piece u rest (· = s)

/-- A body that reads as a text: pieces, with at most two delimiting characters before each of them
and at the end. -/
inductive Body (q : Char) (piece : Reader Text) : Text → Text → Prop where
  | last {n : Nat} (few : n ≤ 2) : Body q piece (List.replicate n q) (List.replicate n q)
  | piece {n : Nat} {u s body t : Text} (few : n ≤ 2) (h : IsPiece q piece u s)
      (rest : Body q piece body t) :
      Body q piece (List.replicate n q ++ (u ++ body)) (List.replicate n q ++ (s ++ t))

/-- Delimiting characters with the pieces behind them. -/
def quotedPieces (q : Char) (after : Reader Text) : Reader Text := do
  let quotes ← innerQuotes q
  return quotes ++ (← after)

theorem takes_pieces1 {v : Text} (h : IsPiece q piece u s)
    (hv : Repeats piece v rest (·.flatten = t)) :
    Takes (pieces1 piece) (u ++ v) rest (· = s ++ t) := by
  apply (h.takes _).bind_eq
  apply hv.many.bind_pure
  rintro _ rfl
  rfl

/-- What makes a body of pieces readable: no piece starts with the delimiting character, and what
follows inner quotes is read as one piece or more. -/
structure Pieces (q : Char) (piece after : Reader Text) : Prop where
  declines : ∀ r, Declines piece (q :: r)
  after : ∀ {u rest s}, Takes (pieces1 piece) u rest (· = s) → Takes after u rest (· = s)

theorem takes_quotedPieces (hp : Pieces q piece after) {n : Nat} (hn : n = 1 ∨ n = 2) {v : Text}
    (h : IsPiece q piece u s) (hv : Repeats piece v rest (·.flatten = t)) :
    Takes (quotedPieces q after) (List.replicate n q ++ (u ++ v)) rest
      (· = List.replicate n q ++ (s ++ t)) := by
  have hquotes : Takes (innerQuotes q) (List.replicate n q) (u ++ v ++ rest)
      (· = List.replicate n q) := by
    obtain ⟨c, r, rfl, hc⟩ := h.starts
    exact takes_innerQuotes hn hc
  apply hquotes.bind_eq
  exact (hp.after (takes_pieces1 h hv)).bind_pure_eq rfl

theorem exists_replicate_append_eq (q : Char) (n : Nat) (rest : Text) :
    ∃ r, List.replicate n q ++ q :: q :: q :: rest = q :: q :: q :: r := by
  refine ⟨List.replicate n q ++ rest, ?_⟩
  induction n with
  | zero => rfl
  | succ n ih => rw [List.replicate_succ, List.cons_append, ih]; rfl

/-- A body as the reader cuts it, before a closing delimiter: pieces up to the first delimiting
character, delimiting characters with pieces behind them, and the last delimiting characters. -/
inductive Cut (q : Char) (piece after : Reader Text) (rest : Text) : Text → Text → Prop where
  | intro {u s v m : Text} {n : Nat} (few : n ≤ 2)
      (start : Repeats piece u (v ++ (List.replicate n q ++ q :: q :: q :: rest)) (·.flatten = s))
      (middle : Repeats (quotedPieces q after) v (List.replicate n q ++ q :: q :: q :: rest)
        (·.flatten = m)) :
      Cut q piece after rest (u ++ (v ++ List.replicate n q)) (s ++ (m ++ List.replicate n q))

theorem Body.cut (hp : Pieces q piece after) {body : Text} (h : Body q piece body t) :
    Cut q piece after rest body t := by
  induction h with
  | @last n few =>
    obtain ⟨r, hr⟩ := exists_replicate_append_eq q n rest
    have hstart : Repeats piece [] (List.replicate n q ++ q :: q :: q :: rest)
        (·.flatten = []) := by
      rw [hr]
      exact (hp.declines _).repeats rfl
    have hmiddle : Repeats (quotedPieces q after) [] (List.replicate n q ++ q :: q :: q :: rest)
        (·.flatten = []) := by
      rw [hr]
      exact declines_innerQuotes.bind.repeats rfl
    exact .intro few hstart hmiddle
  | @piece n u s _ _ few h _ ih =>
    have hu : u ≠ [] := by
      obtain ⟨c, r, rfl, -⟩ := h.starts
      exact List.cons_ne_nil _ _
    cases ih with
    | @intro u' s' v m k few' start middle =>
      obtain rfl | hn : n = 0 ∨ (n = 1 ∨ n = 2) := by omega
      · have hstart : Repeats piece (u ++ u') (v ++ (List.replicate k q ++ q :: q :: q :: rest))
            (·.flatten = s ++ s') :=
          (h.takes _).repeats_flatten hu start
        have := Cut.intro few' hstart middle
        simpa using this
      · -- The pieces behind the delimiting characters now belong to the middle.
        have hstart : Repeats piece [] (List.replicate n q ++ (u ++ u') ++ v ++
            (List.replicate k q ++ q :: q :: q :: rest)) (·.flatten = []) := by
          obtain ⟨j, rfl⟩ : ∃ j, n = j + 1 := ⟨n - 1, by omega⟩
          exact (hp.declines _).repeats rfl
        have hmiddle : Repeats (quotedPieces q after) (List.replicate n q ++ (u ++ u') ++ v)
            (List.replicate k q ++ q :: q :: q :: rest)
            (·.flatten = List.replicate n q ++ (s ++ s') ++ m) :=
          (takes_quotedPieces hp hn h start).repeats_flatten (by simp [hu]) middle
        have := Cut.intro few' hstart hmiddle
        simpa using this

theorem Body.takes_multilineBody (hp : Pieces q piece after) {body : Text}
    (h : Body q piece body t) (hrest : rest.head? ≠ some q) :
    Takes (multilineBody q piece after) body (q :: q :: q :: rest) (· = t) := by
  have hcut : Cut q piece after rest body t := h.cut hp
  cases hcut with
  | @intro _ _ v _ _ few start middle =>
    rw [← List.append_assoc v] at start
    apply start.many.bind
    rintro _ rfl
    apply middle.many.bind
    rintro _ rfl
    apply (takes_lastQuotes few hrest).bind_pure_eq
    rw [List.append_assoc]

theorem takes_multilineString (hp : Pieces q piece after) {body : Text}
    (h : Body q piece body t) (hq : q ≠ '\n' ∧ q ≠ '\r')
    (hstart : '\n' ∉ t → ∀ c ∈ body.head?, c ≠ '\n' ∧ c ≠ '\r') (hrest : rest.head? ≠ some q) :
    Takes (multilineString q piece after)
      ([q, q, q] ++ ((if t.contains '\n' then ['\n'] else []) ++ (body ++ [q, q, q]))) rest
      (· = t) := by
  have hline : Takes (Reader.optional newline) (if t.contains '\n' then ['\n'] else [])
      (body ++ [q, q, q] ++ rest) fun _ => True := by
    by_cases hn : '\n' ∈ t
    · rw [if_pos (by simpa using hn)]
      exact takes_newline.optional.mono fun _ _ => trivial
    · rw [if_neg (by simpa using hn)]
      have hnone : Declines newline (body ++ [q, q, q] ++ rest) := by
        cases body with
        | nil => exact declines_newline hq.1 hq.2
        | cons c r =>
          obtain ⟨hcn, hcr⟩ := hstart hn c rfl
          exact declines_newline hcn hcr
      exact hnone.optional.mono fun _ _ => trivial
  apply takes_word.bind_eq
  apply hline.bind
  intro _ _
  apply (h.takes_multilineBody hp hrest).commit.bind_eq
  exact takes_word.commit.bind_pure_eq rfl

end Multiline

section MultilineBasic

theorem declines_foldedLines (h : c ≠ '\\') : Declines foldedLines (c :: rest) :=
  (declines_char_cons h).bind.bind

theorem pieces_multilineBasic : Pieces '"' multilineBasicPiece
    (commit (either (pieces1 multilineBasicPiece) fail)) where
  declines r := by
    apply Declines.either (declines_satisfy_cons rfl).bind
    apply Declines.either (declines_foldedLines (by decide))
    apply Declines.either (declines_escape (by decide)).bind
    exact (declines_newline (by decide) (by decide)).bind
  after h := h.either_left.commit

theorem IsEscape.isPiece (h : IsEscape u c) : IsPiece '"' multilineBasicPiece u [c] where
  starts := by
    obtain ⟨d, v, rfl, -⟩ := h.exists_eq_cons
    exact ⟨'\\', _, rfl, by decide⟩
  takes rest := by
    apply Takes.either_right h.declines_satisfy.bind
    apply Takes.either_right h.declines_foldedLines
    apply Takes.either_left
    exact h.takes.bind_pure_eq rfl

theorem StandsFor.isPiece (h : StandsFor true u c) (hc : c ≠ '"') :
    IsPiece '"' multilineBasicPiece u [c] where
  starts := by
    obtain ⟨d, v, hv, hd, -⟩ := h.exists_eq_cons hc
    exact ⟨d, v, hv, hd⟩
  takes rest := by
    cases h with
    | itself h =>
      apply Takes.either_left
      exact (takes_satisfy h).bind_pure_eq rfl
    | lineBreak =>
      apply Takes.either_right (declines_satisfy_cons rfl).bind
      apply Takes.either_right (declines_foldedLines (by decide))
      apply Takes.either_right (declines_escape (by decide)).bind
      exact takes_newline.bind_pure_eq rfl
    | escape h => exact h.isPiece.takes rest

/-- The quotes written last count as the first ones of what is written next. -/
theorem body_escapeFrom {run : Nat} (hrun : run ≤ 2) (t : Text) :
    Body '"' multilineBasicPiece (List.replicate run '"' ++ escapeFrom true 2 run t)
      (List.replicate run '"' ++ t) := by
  induction t generalizing run with
  | nil =>
    rw [escapeFrom, List.append_nil]
    exact .last hrun
  | cons c r ih =>
    by_cases hc : c = '"'
    · subst hc
      by_cases hlimit : run < 2
      · rw [escapeFrom, if_pos rfl, if_pos hlimit]
        have := @ih (run + 1) hlimit
        rwa [List.replicate_succ', List.append_assoc, List.append_assoc] at this
      · rw [escapeFrom, if_pos rfl, if_neg hlimit]
        have hquote : IsEscape ['\\', '"'] '"' := .short shortEscape?_quote
        exact .piece hrun hquote.isPiece (ih (Nat.zero_le 2))
    · rw [escapeFrom, if_neg hc]
      exact .piece hrun ((escapeChar_standsFor true hc).isPiece hc) (ih (Nat.zero_le 2))

/-- Only a line feed is written as a line break. -/
theorem head?_escapeFrom (h : '\n' ∉ t) :
    ∀ c ∈ (escapeFrom true 2 0 t).head?, c ≠ '\n' ∧ c ≠ '\r' := by
  cases t with
  | nil => exact fun _ hc => nomatch hc
  | cons c r =>
    by_cases hq : c = '"'
    · subst hq
      rintro _ ⟨⟩
      decide
    · obtain ⟨d, v, hv, -, hdr, hdn⟩ := (escapeChar_standsFor true hq).exists_eq_cons hq
      rw [escapeFrom, if_neg hq, hv]
      rintro _ ⟨⟩
      refine ⟨fun hd => h ?_, hdr⟩
      rw [hdn hd]
      exact List.mem_cons_self

theorem takes_multilineBasicString (t : Text) (hrest : rest.head? ≠ some '"') :
    Takes multilineBasicString (StringForm.multilineBasic.write t) rest (· = t) := by
  rw [StringForm.write_multilineBasic]
  exact (takes_multilineString pieces_multilineBasic (body_escapeFrom (Nat.zero_le 2) t)
    (by decide) head?_escapeFrom hrest).inside

end MultilineBasic

section MultilineLiteral

/-- Stands for itself in a literal string of several lines. -/
def IsPlain (c : Char) : Prop := c = '\'' ∨ c = '\n' ∨ isLiteralChar c = true

theorem pieces_multilineLiteral :
    Pieces '\'' multilineLiteralPiece (pieces1 multilineLiteralPiece) where
  declines r := by
    apply Declines.either (declines_satisfy_cons rfl).bind
    exact (declines_newline (by decide) (by decide)).bind
  after h := h

theorem IsPlain.isPiece (h : IsPlain c) (hc : c ≠ '\'') :
    IsPiece '\'' multilineLiteralPiece [c] [c] where
  starts := ⟨c, [], rfl, hc⟩
  takes rest := by
    rcases h with h | rfl | h
    · exact absurd h hc
    · apply Takes.either_right (declines_satisfy_cons rfl).bind
      exact takes_newline.bind_pure_eq rfl
    · apply Takes.either_left
      exact (takes_satisfy h).bind_pure_eq rfl

theorem tripled_of_append (h : tripled q (s ++ t) = false) : tripled q t = false := by
  induction s with
  | nil => exact h
  | cons c s ih =>
    apply ih
    rw [List.cons_append] at h
    cases hst : s ++ t with
    | nil => rfl
    | cons d r =>
      rw [hst] at h
      cases r with
      | nil => rfl
      | cons e r =>
        rw [tripled, Bool.or_eq_false_iff] at h
        exact h.2

theorem body_self {run : Nat} (hrun : run ≤ 2) (hplain : ∀ c ∈ t, IsPlain c)
    (h : tripled '\'' (List.replicate run '\'' ++ t) = false) :
    Body '\'' multilineLiteralPiece (List.replicate run '\'' ++ t)
      (List.replicate run '\'' ++ t) := by
  induction t generalizing run with
  | nil =>
    rw [List.append_nil]
    exact .last hrun
  | cons c r ih =>
    obtain ⟨hc, hr⟩ := List.forall_mem_cons.mp hplain
    by_cases hq : c = '\''
    · subst hq
      have hcons : List.replicate run '\'' ++ '\'' :: r = List.replicate (run + 1) '\'' ++ r := by
        rw [List.replicate_succ', List.append_assoc, List.singleton_append]
      rw [hcons] at h ⊢
      refine ih ?_ hr h
      by_contra hfew
      obtain rfl : run = 2 := by omega
      cases h
    · have htail : tripled '\'' r = false := tripled_of_append (s := List.replicate run '\'' ++ [c])
        (by simpa using h)
      exact .piece hrun (hc.isPiece hq) (ih (Nat.zero_le 2) hr htail)

theorem takes_multilineLiteralString (hplain : ∀ c ∈ t, IsPlain c) (h : tripled '\'' t = false)
    (hrest : rest.head? ≠ some '\'') :
    Takes multilineLiteralString (StringForm.multilineLiteral.write t) rest (· = t) := by
  have hstart : '\n' ∉ t → ∀ c ∈ t.head?, c ≠ '\n' ∧ c ≠ '\r' := by
    intro hn c hc
    have hmem : c ∈ t := List.mem_of_mem_head? hc
    constructor
    · rintro rfl
      exact hn hmem
    · rintro rfl
      rcases hplain _ hmem with h | h | h <;> cases h
  rw [StringForm.write_multilineLiteral]
  exact (takes_multilineString pieces_multilineLiteral
    (body_self (Nat.zero_le 2) hplain h) (by decide) hstart hrest).inside

end MultilineLiteral

section Forms

theorem not_isPrefix_of_head?_ne (h : t.head? ≠ some q) : ¬ [q, q, q] <+: t := by
  rintro ⟨r, rfl⟩
  exact h rfl

/-- A single delimiter does not begin a delimiter of several lines. -/
theorem not_isPrefix_of_delimited (ht : t.head? ≠ some q) (hrest : rest.head? ≠ some q) :
    ¬ [q, q, q] <+: [q] ++ (t ++ [q]) ++ rest := by
  rintro ⟨r, hr⟩
  cases t with
  | nil =>
    obtain rfl : q :: r = rest := by simpa using hr
    exact hrest rfl
  | cons c t =>
    obtain ⟨rfl, -⟩ : q = c ∧ _ := by simpa using hr
    exact ht rfl

theorem declines_multilineBasicString (h : ¬ ['"', '"', '"'] <+: t) :
    Declines multilineBasicString t :=
  (declines_word h).bind.inside

theorem declines_multilineLiteralString (h : ¬ ['\'', '\'', '\''] <+: t) :
    Declines multilineLiteralString t :=
  (declines_word h).bind.inside

theorem declines_basicString (h : t.head? ≠ some '"') : Declines basicString t :=
  (declines_char h).bind

/-- The form can stand for the string. -/
def StringForm.Holds : StringForm → Text → Prop
  | .basic, _ | .multilineBasic, _ => True
  | .literal, t => ∀ c ∈ t, isLiteralChar c = true
  | .multilineLiteral, t => (∀ c ∈ t, IsPlain c) ∧ tripled '\'' t = false

theorem StringForm.choose_holds (t : Text) : (choose t).Holds t := by
  have plain (h : (!t.any needsEscape) = true) : ∀ c ∈ t, needsEscape c = false := by
    simpa using h
  simp only [choose]
  split_ifs with hbasic hliteral hmultiline hlast
  · trivial
  · simp only [Bool.and_eq_true] at hliteral
    obtain ⟨⟨hplain, happostrophe⟩, hline⟩ := hliteral
    intro c hc
    apply isLiteralChar_of_not_needsEscape (plain hplain c hc)
    · rintro rfl
      simp [hc] at happostrophe
    · rintro rfl
      simp [hc] at hline
  · trivial
  · simp only [Bool.and_eq_true] at hlast
    obtain ⟨hplain, htripled⟩ := hlast
    refine ⟨fun c hc => ?_, by simpa using htripled⟩
    by_cases hq : c = '\''
    · exact .inl hq
    · by_cases hn : c = '\n'
      · exact .inr (.inl hn)
      · exact .inr (.inr (isLiteralChar_of_not_needsEscape (plain hplain c hc) hq hn))
  · trivial
  · trivial

/-- No delimiter of a string goes on in the text. -/
structure Clear (t : Text) : Prop where
  quotation : t.head? ≠ some '"'
  apostrophe : t.head? ≠ some '\''

theorem head?_escapeFrom_ne (t : Text) : (escapeFrom false 0 0 t).head? ≠ some '"' := by
  cases t with
  | nil => exact nofun
  | cons c r =>
    by_cases hc : c = '"'
    · subst hc
      exact nofun
    · obtain ⟨d, v, hv, hd, -⟩ := (escapeChar_standsFor false hc).exists_eq_cons hc
      rw [escapeFrom, if_neg hc, hv]
      simpa using hd

theorem StringForm.Holds.takes_string {form : StringForm} (h : form.Holds t) (hrest : Clear rest) :
    Takes string (form.write t) rest (· = t) := by
  cases form with
  | basic =>
    apply Takes.either_right
    · apply declines_multilineBasicString
      rw [StringForm.write_basic]
      exact not_isPrefix_of_delimited (head?_escapeFrom_ne t) hrest.quotation
    · exact (takes_basicString t).either_left
  | literal =>
    have hhead : t.head? ≠ some '\'' := by
      intro hq
      cases h _ (List.mem_of_mem_head? hq)
    have hquote : (StringForm.literal.write t ++ rest).head? ≠ some '"' := nofun
    apply Takes.either_right (declines_multilineBasicString (not_isPrefix_of_head?_ne hquote))
    apply Takes.either_right (declines_basicString hquote)
    apply Takes.either_right
    · apply declines_multilineLiteralString
      rw [StringForm.write_literal]
      exact not_isPrefix_of_delimited hhead hrest.apostrophe
    · exact takes_literalString h
  | multilineBasic => exact (takes_multilineBasicString t hrest.quotation).either_left
  | multilineLiteral =>
    have hquote : (StringForm.multilineLiteral.write t ++ rest).head? ≠ some '"' := nofun
    apply Takes.either_right (declines_multilineBasicString (not_isPrefix_of_head?_ne hquote))
    apply Takes.either_right (declines_basicString hquote)
    exact (takes_multilineLiteralString h.1 h.2 hrest.apostrophe).either_left

/-- Every string reads as what was written. -/
theorem takes_writeString (t : Text) (hrest : Clear rest) :
    Takes string (writeString t) rest (· = t) :=
  (StringForm.choose_holds t).takes_string hrest

end Forms

end SqlTemplate.Toml
